import StripTuner.HttpPortal.Forms
import StripTuner.Lib.Decimal

/-!
# Own origins

The origins that `IsHttpStationOriginAllowed()` accepts: the device's own names and its address, with
or without the default port, and nothing that only resembles them.
-/

namespace StripTuner.HttpPortal

/-! ## The specification -/

/-- The byte of an address that lies at an index in memory. -/
def addressByte (stationIpv4 : UInt32) (index : Nat) : Nat := stationIpv4.toNat / 256 ^ index % 256

/-- The canonical dotted decimal of an address. -/
def addressText (stationIpv4 : UInt32) : List UInt8 :=
  Decimal.digits (addressByte stationIpv4 0) ++ 0x2E :: (Decimal.digits (addressByte stationIpv4 1) ++
    0x2E :: (Decimal.digits (addressByte stationIpv4 2) ++
      0x2E :: Decimal.digits (addressByte stationIpv4 3)))

/-- A host that this device serves its pages under. -/
inductive OwnHost (hostnameInUse : Option (List UInt8)) (stationIpv4 : UInt32) :
    List UInt8 → Prop where
  | default : OwnHost hostnameInUse stationIpv4 (ascii "rgb-tuner.local")
  | hostname {name : List UInt8} : hostnameInUse = some name → name ≠ [] → name.length ≤ 63 →
      OwnHost hostnameInUse stationIpv4 (name ++ ascii ".local")
  | address : stationIpv4 ≠ 0 → OwnHost hostnameInUse stationIpv4 (addressText stationIpv4)

/-- An origin of its pages, with or without the default port. -/
inductive OwnOrigin (hostnameInUse : Option (List UInt8)) (stationIpv4 : UInt32) :
    List UInt8 → Prop where
  | plain {host : List UInt8} : OwnHost hostnameInUse stationIpv4 host →
      OwnOrigin hostnameInUse stationIpv4 (ascii "http://" ++ host)
  | port {host : List UInt8} : OwnHost hostnameInUse stationIpv4 host →
      OwnOrigin hostnameInUse stationIpv4 (ascii "http://" ++ (host ++ ascii ":80"))

/-! ## Comparing without case -/

section Case

variable {xs ys left right : List UInt8}

theorem isCaseEqual_iff : isCaseEqual xs ys = true ↔ xs.map toLower = ys.map toLower :=
  decide_eq_true_iff

theorem length_eq_of_isCaseEqual (h : isCaseEqual xs ys = true) : xs.length = ys.length := by
  have hlength := congrArg List.length (isCaseEqual_iff.1 h)
  rwa [List.length_map, List.length_map] at hlength

/-- A text equals two parts when its own two parts do. -/
theorem isCaseEqual_append :
    isCaseEqual xs (left ++ right) = true ↔ xs.length = left.length + right.length ∧
      isCaseEqual (xs.take left.length) left = true ∧
        isCaseEqual (xs.drop left.length) right = true := by
  simp only [isCaseEqual_iff]
  constructor
  · intro h
    have hlength := congrArg List.length h
    rw [List.length_map, List.length_map, List.length_append] at hlength
    rw [List.map_append] at h
    have htake := congrArg (List.take left.length) h
    have hdrop := congrArg (List.drop left.length) h
    rw [List.take_left' (List.length_map _), ← List.map_take] at htake
    rw [List.drop_left' (List.length_map _), ← List.map_drop] at hdrop
    exact ⟨hlength, htake, hdrop⟩
  · rintro ⟨-, htake, hdrop⟩
    rw [List.map_append, ← htake, ← hdrop, ← List.map_append, List.take_append_drop]

theorem toNat_toLower (byte : UInt8) :
    (toLower byte).toNat = if 65 ≤ byte.toNat ∧ byte.toNat ≤ 90 then byte.toNat + 32
      else byte.toNat := by
  have hupper : (0x41 ≤ byte && byte ≤ 0x5A) = true ↔ 65 ≤ byte.toNat ∧ byte.toNat ≤ 90 := by
    rw [Bool.and_eq_true, decide_eq_true_eq, decide_eq_true_eq, UInt8.le_iff_toNat_le,
      UInt8.le_iff_toNat_le]
    exact Iff.rfl
  have hshift : (0x20 : UInt8).toNat = 32 := by decide
  rw [toLower]
  by_cases hcase : 65 ≤ byte.toNat ∧ byte.toNat ≤ 90
  · rw [if_pos (hupper.2 hcase), if_pos hcase, UInt8.toNat_add, hshift]
    omega
  · rw [if_neg (hupper.not.2 hcase), if_neg hcase]

/-- A byte that is no letter equals itself only. -/
theorem toLower_inj_of_lt {x y : UInt8} (hy : y.toNat < 65) (h : toLower x = toLower y) : x = y := by
  have hnat := congrArg UInt8.toNat h
  rw [toNat_toLower, toNat_toLower, if_neg (by omega : ¬ (65 ≤ y.toNat ∧ y.toNat ≤ 90))] at hnat
  rw [← UInt8.toNat_inj]
  split at hnat <;> omega

/-- A text without letters equals itself only. -/
theorem eq_of_isCaseEqual (h : isCaseEqual xs ys = true) (hys : ∀ y ∈ ys, y.toNat < 65) :
    xs = ys := by
  rw [isCaseEqual_iff] at h
  induction ys generalizing xs with
  | nil => simpa using h
  | cons y ys ih =>
      cases xs with
      | nil => simp at h
      | cons x xs =>
          rw [List.map_cons, List.map_cons, List.cons.injEq] at h
          rw [toLower_inj_of_lt (hys y List.mem_cons_self) h.1,
            ih h.2 fun z hz => hys z (List.mem_cons_of_mem y hz)]

theorem isCaseEqual_refl (xs : List UInt8) : isCaseEqual xs xs = true := isCaseEqual_iff.2 rfl

end Case

/-! ## The name -/

theorem isLocalHostMatch_iff {host hostname : List UInt8} :
    isLocalHostMatch host hostname = true ↔ hostname ≠ [] ∧ hostname.length ≤ 63 ∧
      isCaseEqual host (hostname ++ ascii ".local") = true := by
  have hsuffix : (ascii ".local").length = 6 := by decide
  rw [isLocalHostMatch]
  by_cases hlong : hostname.length ≤ 63
  · rw [List.take_of_length_le (Nat.le_trans hlong (by decide))]
    by_cases hempty : hostname = []
    · rw [if_pos (Or.inl (by rw [hempty]; rfl))]
      simp [hempty]
    · have hpos : 0 < hostname.length := List.length_pos_iff.2 hempty
      by_cases hlength : host.length = hostname.length + (ascii ".local").length
      · rw [if_neg (by simp only [mdnsServiceHostnameMax]; omega), Bool.and_eq_true,
          isCaseEqual_append]
        exact ⟨fun h => ⟨hempty, hlong, hlength, h⟩, fun h => h.2.2.2⟩
      · rw [if_pos (Or.inr (Or.inr hlength))]
        constructor
        · intro h
          cases h
        · rintro ⟨-, -, h⟩
          exact absurd (isCaseEqual_append.1 h).1 hlength
  · have hfull : (hostname.take mdnsServiceHostnameMax).length = mdnsServiceHostnameMax := by
      rw [List.length_take]
      simp only [mdnsServiceHostnameMax]
      omega
    rw [if_pos (Or.inr (Or.inl hfull))]
    constructor
    · intro h
      cases h
    · rintro ⟨-, hshort, -⟩
      exact absurd hshort hlong

/-! ## The address -/

theorem toNat_octet (stationIpv4 : UInt32) {index : Nat} (h : index < 4) :
    (octet stationIpv4 index).toNat = addressByte stationIpv4 index := by
  have hmask : (0xFF : UInt32).toNat = 2 ^ 8 - 1 := by decide
  have hshift : (8 * index).toUInt32.toNat % 32 = 8 * index := by
    rw [Nat.toUInt32, UInt32.toNat_ofNat']
    omega
  rw [octet, UInt32.toNat_and, UInt32.toNat_shiftRight, hmask, Nat.and_two_pow_sub_one_eq_mod,
    hshift, Nat.shiftRight_eq_div_pow, Nat.pow_mul, addressByte]

theorem addressByte_lt (stationIpv4 : UInt32) (index : Nat) : addressByte stationIpv4 index < 256 :=
  Nat.mod_lt _ (by decide)

/-- Up to three digits have their value without wrapping. -/
theorem foldl_octetDigits {digits : List UInt8} (h : digits.all isDigit = true)
    (hlength : digits.length ≤ 3) :
    (digits.foldl (fun (value : UInt32) digit => value * 10 + (digit.toUInt32 - 0x30)) 0).toNat =
      Decimal.value digits := by
  have hfold : ∀ (n : Nat), digits.foldl
      (fun (value : UInt32) digit => value * 10 + (digit.toUInt32 - 0x30)) (UInt32.ofNat n) =
        UInt32.ofNat (digits.foldl (fun value digit => 10 * value + (digit.toNat - 0x30)) n) := by
    clear hlength
    induction digits with
    | nil => exact fun n => rfl
    | cons digit digits ih =>
        intro n
        rw [List.all_cons, Bool.and_eq_true] at h
        have hdigit := Decimal.isDigit_iff.1 h.1
        have hstep : UInt32.ofNat n * 10 + (digit.toUInt32 - 0x30) =
            UInt32.ofNat (10 * n + (digit.toNat - 0x30)) := by
          have hle : (0x30 : UInt32) ≤ digit.toUInt32 := by
            rw [UInt32.le_iff_toNat_le, UInt8.toNat_toUInt32]
            exact hdigit.1
          have hten : (10 : UInt32).toNat = 10 := by decide
          have hzero : (0x30 : UInt32).toNat = 48 := by decide
          rw [← UInt32.toNat_inj, UInt32.toNat_add, UInt32.toNat_mul,
            UInt32.toNat_sub_of_le _ _ hle, UInt8.toNat_toUInt32, UInt32.toNat_ofNat',
            UInt32.toNat_ofNat', hten, hzero]
          omega
        rw [List.foldl_cons, List.foldl_cons, hstep, ih h.2]
  have hvalue := Decimal.value_lt h
  have hthousand : 10 ^ digits.length ≤ 10 ^ 3 := Nat.pow_le_pow_right (by decide) hlength
  have hzero := hfold 0
  rw [← Decimal.value] at hzero
  have hnat := congrArg UInt32.toNat hzero
  rwa [UInt32.toNat_ofNat', Nat.mod_eq_of_lt (by omega)] at hnat

theorem length_digits_le {n : Nat} (h : n < 256) : (Decimal.digits n).length ≤ 3 :=
  (Decimal.length_digits_le_iff (by decide)).2 (by omega)

/-- What is taken off is the canonical text of the octet. -/
theorem eq_digits_append_of_matchOctet {host rest : List UInt8} {octet : UInt32}
    (h : matchOctet host octet = some rest) : host = Decimal.digits octet.toNat ++ rest := by
  have hall : ((host.take 3).takeWhile isDigit).all isDigit = true := List.all_takeWhile
  have hlength : ((host.take 3).takeWhile isDigit).length ≤ 3 :=
    (List.takeWhile_sublist _).length_le.trans (List.length_take_le 3 host)
  have hstart : (host.take 3).takeWhile isDigit <+: host :=
    (List.takeWhile_prefix _).trans (List.take_prefix 3 host)
  rw [matchOctet] at h
  split at h
  · cases h
  · rename_i hgood
    rw [not_or, not_or, not_not] at hgood
    obtain ⟨hnonempty, hlead, hvalue⟩ := hgood
    have hcanonical : Decimal.Canonical ((host.take 3).takeWhile isDigit) :=
      ⟨fun hnil => hnonempty (by rw [hnil]; rfl), hall, fun hmany hzero => hlead ⟨hmany, hzero⟩⟩
    rw [← hvalue, foldl_octetDigits hall hlength, Decimal.digits_value hcanonical, ← Option.some.inj h]
    exact (List.prefix_iff_eq_append.1 hstart).symm

/-- The canonical text of an octet is taken off in front of anything but a digit. -/
theorem matchOctet_digits {rest : List UInt8} {octet : UInt32} (hoctet : octet.toNat < 256)
    (hrest : ∀ byte ∈ rest.head?, isDigit byte = false) :
    matchOctet (Decimal.digits octet.toNat ++ rest) octet = some rest := by
  have hshort := length_digits_le hoctet
  have hall : (Decimal.digits octet.toNat).all isDigit = true :=
    Decimal.all_isDigit_digits octet.toNat
  have hstop (k : Nat) : (rest.take k).takeWhile isDigit = [] := by
    cases rest with
    | nil => simp
    | cons byte rest =>
        cases k with
        | zero => rfl
        | succ k => rw [List.take_succ_cons, List.takeWhile_cons, hrest byte rfl, if_neg (by decide)]
  have htaken : ((Decimal.digits octet.toNat ++ rest).take 3).takeWhile isDigit =
      Decimal.digits octet.toNat := by
    rw [List.take_append, List.take_of_length_le hshort,
      List.takeWhile_append_of_pos (List.all_eq_true.1 hall), hstop, List.append_nil]
  have hcanonical := Decimal.canonical_digits octet.toNat
  have hvalue : (Decimal.digits octet.toNat).foldl
      (fun (value : UInt32) digit => value * 10 + (digit.toUInt32 - 0x30)) 0 = octet := by
    rw [← UInt32.toNat_inj, foldl_octetDigits hall hshort, Decimal.value_digits]
  have hgood : ¬ ((Decimal.digits octet.toNat).length = 0 ∨
      ((Decimal.digits octet.toNat).length > 1 ∧ (Decimal.digits octet.toNat).getD 0 0 = 0x30) ∨
        (Decimal.digits octet.toNat).foldl
          (fun (value : UInt32) digit => value * 10 + (digit.toUInt32 - 0x30)) 0 ≠ octet) := by
    rintro (hempty | ⟨hmany, hzero⟩ | hother)
    · exact hcanonical.nonempty (List.length_eq_zero_iff.1 hempty)
    · exact hcanonical.noLeadingZero hmany hzero
    · exact hother hvalue
  rw [matchOctet, htaken, if_neg hgood, List.drop_left]

theorem matchDot_iff {host rest : List UInt8} :
    matchDot host = some rest ↔ host = 0x2E :: rest := by
  cases host with
  | nil => simp [matchDot]
  | cons byte host =>
      rw [matchDot, List.getD_cons_zero]
      by_cases hdot : byte = 0x2E
      · simp [hdot]
      · simp [hdot]

/-- The four octets and the dots between them are the canonical text. -/
theorem isAddressHostMatch_iff {host : List UInt8} {stationIpv4 : UInt32} :
    isAddressHostMatch host stationIpv4 = true ↔
      stationIpv4 ≠ 0 ∧ host = addressText stationIpv4 := by
  have hbyte (index : Nat) (hindex : index < 4) := toNat_octet stationIpv4 hindex
  rw [isAddressHostMatch]
  by_cases hunknown : stationIpv4 = 0
  · rw [if_pos hunknown]
    simp [hunknown]
  · rw [if_neg hunknown, decide_eq_true_iff]
    constructor
    · intro h
      simp only [Option.bind_eq_bind, Option.bind_eq_some_iff] at h
      obtain ⟨d0, ⟨h0, ho0, hd0⟩, d1, ⟨h1, ho1, hd1⟩, d2, ⟨h2, ho2, hd2⟩, ho3⟩ := h
      rw [matchDot_iff] at hd0 hd1 hd2
      refine ⟨hunknown, ?_⟩
      rw [eq_digits_append_of_matchOctet ho0, hd0, eq_digits_append_of_matchOctet ho1, hd1,
        eq_digits_append_of_matchOctet ho2, hd2, eq_digits_append_of_matchOctet ho3,
        hbyte 0 (by decide), hbyte 1 (by decide), hbyte 2 (by decide), hbyte 3 (by decide),
        List.append_nil, addressText]
    · rintro ⟨-, rfl⟩
      have hdot (rest : List UInt8) : ∀ byte ∈ (0x2E :: rest : List UInt8).head?,
          isDigit byte = false := by
        intro byte hhead
        cases hhead
        decide
      have hoctet (index : Nat) (hindex : index < 4) (rest : List UInt8)
          (hrest : ∀ byte ∈ rest.head?, isDigit byte = false) :
          matchOctet (Decimal.digits (addressByte stationIpv4 index) ++ rest)
            (octet stationIpv4 index) = some rest := by
        rw [← hbyte index hindex]
        apply matchOctet_digits _ hrest
        rw [hbyte index hindex]
        exact addressByte_lt stationIpv4 index
      have hlast := hoctet 3 (by decide) [] (by simp)
      rw [List.append_nil] at hlast
      have hskip (rest : List UInt8) : matchDot (0x2E :: rest) = some rest := matchDot_iff.2 rfl
      rw [addressText, hoctet 0 (by decide) _ (hdot _)]
      simp only [Option.bind_eq_bind, Option.bind_some, hskip]
      rw [hoctet 1 (by decide) _ (hdot _)]
      simp only [Option.bind_some, hskip]
      rw [hoctet 2 (by decide) _ (hdot _)]
      simp only [Option.bind_some, hskip]
      exact hlast

/-- An address is written with digits and dots. -/
theorem toNat_lt_of_mem_addressText {stationIpv4 : UInt32} {byte : UInt8}
    (h : byte ∈ addressText stationIpv4) : byte.toNat < 58 := by
  have hdigits (n : Nat) (hmem : byte ∈ Decimal.digits n) : byte.toNat < 58 := by
    have hdigit := Decimal.isDigit_iff.1
      (List.all_eq_true.1 (Decimal.all_isDigit_digits n) byte hmem)
    omega
  have hdot : (0x2E : UInt8).toNat < 58 := by decide
  rw [addressText] at h
  simp only [List.mem_append, List.mem_cons] at h
  rcases h with h | rfl | h | rfl | h | rfl | h
  · exact hdigits _ h
  · exact hdot
  · exact hdigits _ h
  · exact hdot
  · exact hdigits _ h
  · exact hdot
  · exact hdigits _ h

/-! ## The origin -/

section Origin

variable {hostnameInUse : Option (List UInt8)} {stationIpv4 : UInt32}

/-- The three comparisons are the own hosts. -/
theorem hostMatch_iff {host : List UInt8} :
    (isLocalHostMatch host (ascii "rgb-tuner") ||
      hostnameInUse.any (fun hostname => isLocalHostMatch host hostname) ||
      isAddressHostMatch host stationIpv4) = true ↔
    ∃ own, OwnHost hostnameInUse stationIpv4 own ∧ isCaseEqual host own = true := by
  rw [Bool.or_eq_true, Bool.or_eq_true, isAddressHostMatch_iff, isLocalHostMatch_iff]
  constructor
  · rintro ((⟨-, -, hname⟩ | hname) | ⟨hknown, rfl⟩)
    · exact ⟨_, .default, hname⟩
    · obtain ⟨hostname, hsome, hmatch⟩ := (Option.any_eq_true _ _).1 hname
      obtain ⟨hne, hshort, hequal⟩ := isLocalHostMatch_iff.1 hmatch
      exact ⟨_, .hostname hsome hne hshort, hequal⟩
    · exact ⟨_, .address hknown, isCaseEqual_refl _⟩
  · rintro ⟨own, hown, hequal⟩
    cases hown with
    | default => exact Or.inl (Or.inl ⟨by decide, by decide, hequal⟩)
    | hostname hsome hne hshort =>
        refine Or.inl (Or.inr ((Option.any_eq_true _ _).2 ⟨_, hsome, ?_⟩))
        exact isLocalHostMatch_iff.2 ⟨hne, hshort, hequal⟩
    | address hknown =>
        refine Or.inr ⟨hknown, eq_of_isCaseEqual hequal fun byte hbyte => ?_⟩
        have hlt := toNat_lt_of_mem_addressText hbyte
        omega

theorem OwnHost.ne_nil {own : List UInt8} (h : OwnHost hostnameInUse stationIpv4 own) :
    own ≠ [] := by
  cases h with
  | default => decide
  | hostname _ hne _ => exact List.append_ne_nil_of_left_ne_nil hne _
  | address _ =>
      rw [addressText]
      exact List.append_ne_nil_of_left_ne_nil (Decimal.digits_ne_nil _) _

/-- No own host looks as if it ended in the port. -/
theorem OwnHost.no_port {own rest : List UInt8} (h : OwnHost hostnameInUse stationIpv4 own) :
    isCaseEqual (rest ++ ascii ":80") own = false := by
  rw [Bool.eq_false_iff]
  intro hequal
  rw [isCaseEqual_iff] at hequal
  have hlocal (name : List UInt8) (hname : own = name ++ ascii ".local") : False := by
    have hlast := congrArg List.getLast? hequal
    rw [hname, List.map_append, List.map_append, List.getLast?_append_of_ne_nil _ (by decide),
      List.getLast?_append_of_ne_nil _ (by decide)] at hlast
    revert hlast
    decide
  cases h with
  | default => exact hlocal (ascii "rgb-tuner") (by decide)
  | hostname _ _ _ => exact hlocal _ rfl
  | address _ =>
      have hcolon : (0x3A : UInt8) ∈ (rest ++ ascii ":80").map toLower := by
        rw [List.map_append, List.mem_append]
        exact Or.inr (by decide)
      rw [hequal] at hcolon
      obtain ⟨byte, hbyte, heq⟩ := List.mem_map.1 hcolon
      have hlt := toNat_lt_of_mem_addressText hbyte
      have hnat := congrArg UInt8.toNat heq
      have hcode : (0x3A : UInt8).toNat = 58 := by decide
      rw [toNat_toLower, if_neg (by omega), hcode] at hnat
      omega

/-- The host without the default port. -/
def stripPort (host : List UInt8) : List UInt8 :=
  if host.length > (ascii ":80").length ∧ host.drop (host.length - (ascii ":80").length) = ascii ":80"
  then host.take (host.length - (ascii ":80").length) else host

theorem stripPort_append {host : List UInt8} (h : host ≠ []) :
    stripPort (host ++ ascii ":80") = host := by
  have hpos := List.length_pos_iff.2 h
  rw [stripPort, List.length_append, Nat.add_sub_cancel, List.drop_left, List.take_left,
    if_pos ⟨by omega, rfl⟩]

/-- Either nothing is stripped, or the port. -/
theorem stripPort_cases (host : List UInt8) :
    stripPort host = host ∨ host = stripPort host ++ ascii ":80" := by
  rw [stripPort]
  by_cases hport : host.length > (ascii ":80").length ∧
      host.drop (host.length - (ascii ":80").length) = ascii ":80"
  · rw [if_pos hport]
    right
    conv_lhs => rw [← List.take_append_drop (host.length - (ascii ":80").length) host, hport.2]
  · rw [if_neg hport]
    exact Or.inl rfl

/-- What the origin is behind its scheme. -/
theorem stripPort_match_iff {host : List UInt8} :
    (∃ own, OwnHost hostnameInUse stationIpv4 own ∧ isCaseEqual (stripPort host) own = true) ↔
      ∃ own, OwnHost hostnameInUse stationIpv4 own ∧
        (isCaseEqual host own = true ∨ isCaseEqual host (own ++ ascii ":80") = true) := by
  constructor
  · rintro ⟨own, hown, hequal⟩
    refine ⟨own, hown, ?_⟩
    cases stripPort_cases host with
    | inl hsame => exact Or.inl (hsame ▸ hequal)
    | inr hport =>
        right
        rw [hport, isCaseEqual_iff, List.map_append, List.map_append, isCaseEqual_iff.1 hequal]
  · rintro ⟨own, hown, hequal⟩
    refine ⟨own, hown, ?_⟩
    cases hequal with
    | inl hplain =>
        cases stripPort_cases host with
        | inl hsame => rwa [hsame]
        | inr hport =>
            rw [hport, hown.no_port] at hplain
            cases hplain
    | inr hport =>
        obtain ⟨-, hhost, hsuffix⟩ := isCaseEqual_append.1 hport
        have hport : (ascii ":80").all (·.toNat < 65) = true := by decide
        have hexact := eq_of_isCaseEqual hsuffix fun byte hbyte =>
          of_decide_eq_true (List.all_eq_true.1 hport byte hbyte)
        have hsplit := List.take_append_drop own.length host
        rw [hexact] at hsplit
        have hne : host.take own.length ≠ [] := by
          intro hnil
          have hlength := length_eq_of_isCaseEqual hhost
          rw [hnil] at hlength
          exact hown.ne_nil (List.length_eq_zero_iff.1 hlength.symm)
        rw [← hsplit, stripPort_append hne]
        exact hhost

end Origin

/-- Exactly a request without the header, or with one of the device's own origins, is allowed. -/
theorem isHttpStationOriginAllowed_iff (origin hostnameInUse : Option (List UInt8))
    (stationIpv4 : UInt32) :
    isHttpStationOriginAllowed origin hostnameInUse stationIpv4 = true ↔
      origin = none ∨ ∃ text, origin = some text ∧ text.length ≤ httpStationOriginMax ∧
        ∃ own, OwnOrigin hostnameInUse stationIpv4 own ∧ isCaseEqual text own = true := by
  cases origin with
  | none => exact iff_of_true rfl (Or.inl rfl)
  | some text =>
      have hscheme : (ascii "http://").length = 7 := by decide
      constructor
      · intro h
        rw [isHttpStationOriginAllowed] at h
        split at h
        · cases h
        · rename_i hgood
          rw [not_or, not_or, not_lt, not_le, Bool.not_eq_true', Bool.not_eq_false] at hgood
          obtain ⟨hlong, hlonger, hequal⟩ := hgood
          obtain ⟨own, hown, hhost⟩ := stripPort_match_iff.1 (hostMatch_iff.1 h)
          have hwhole {rest : List UInt8}
              (hrest : isCaseEqual (text.drop (ascii "http://").length) rest = true) :
              isCaseEqual text (ascii "http://" ++ rest) = true := by
            have hlength := length_eq_of_isCaseEqual hrest
            rw [List.length_drop] at hlength
            exact isCaseEqual_append.2 ⟨by omega, hequal, hrest⟩
          refine Or.inr ⟨text, rfl, hlong, ?_⟩
          cases hhost with
          | inl hplain => exact ⟨_, .plain hown, hwhole hplain⟩
          | inr hport => exact ⟨_, .port hown, hwhole hport⟩
      · rintro (hnone | ⟨text', hsome, hlong, own, hown, hequal⟩)
        · cases hnone
        · cases hsome
          have hbehind : ∃ host, OwnHost hostnameInUse stationIpv4 host ∧ ∃ rest, rest ≠ [] ∧
              isCaseEqual text (ascii "http://" ++ rest) = true ∧
                (rest = host ∨ rest = host ++ ascii ":80") := by
            cases hown with
            | plain hhost => exact ⟨_, hhost, _, hhost.ne_nil, hequal, Or.inl rfl⟩
            | port hhost =>
                exact ⟨_, hhost, _, List.append_ne_nil_of_right_ne_nil _ (by decide), hequal,
                  Or.inr rfl⟩
          obtain ⟨host, hhost, rest, hne, hwhole, hrest⟩ := hbehind
          obtain ⟨hlength, hscheme', hafter⟩ := isCaseEqual_append.1 hwhole
          have hpos := List.length_pos_iff.2 hne
          rw [isHttpStationOriginAllowed, if_neg]
          · apply hostMatch_iff.2
            apply stripPort_match_iff.2
            rcases hrest with rfl | rfl
            · exact ⟨_, hhost, Or.inl hafter⟩
            · exact ⟨_, hhost, Or.inr hafter⟩
          · rw [not_or, not_or, not_lt, not_le, hscheme']
            exact ⟨hlong, by omega, by decide⟩

end StripTuner.HttpPortal
