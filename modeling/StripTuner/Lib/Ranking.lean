import Mathlib.Data.Finset.Card
import Mathlib.Data.List.DropRight

/-!
# Rankings

A list in descending order of a key, where entries with the same key keep their order, and the
first entry of each name in it.
-/

namespace Ranking

variable {α β κ : Type} [LinearOrder κ]

/-! ## Stable sorting -/

section StableSort

variable (key : α → κ)

/-- The entries by descending key, those of one key in the order they came in. -/
structure IsStableSort (entries sorted : List α) : Prop where
  descending : sorted.Pairwise fun x y => key y ≤ key x
  stable : ∀ k, sorted.filter (key · = k) = entries.filter (key · = k)

variable {key} {entries sorted : List α}

theorem IsStableSort.nil : IsStableSort key [] [] := ⟨.nil, fun _ => rfl⟩

theorem IsStableSort.mem_iff (h : IsStableSort key entries sorted) {x : α} :
    x ∈ sorted ↔ x ∈ entries := by
  have hfilter : x ∈ sorted.filter (key · = key x) ↔ x ∈ entries.filter (key · = key x) := by
    rw [h.stable]
  simpa using hfilter

/-- Where the first entry is one of the highest, the key that it has is the highest. -/
theorem IsStableSort.head_le {x y : α} {sorted' : List α}
    (h : IsStableSort key entries (x :: sorted)) (h' : IsStableSort key entries (y :: sorted')) :
    key x ≤ key y := by
  have hmem : x ∈ y :: sorted' := h'.mem_iff.2 (h.mem_iff.1 List.mem_cons_self)
  rcases List.mem_cons.1 hmem with rfl | hmem
  · exact le_rfl
  · exact List.rel_of_pairwise_cons h'.descending hmem

/-- There is one stable sort of a list. -/
theorem IsStableSort.unique {sorted' : List α} (h : IsStableSort key entries sorted)
    (h' : IsStableSort key entries sorted') : sorted = sorted' := by
  induction sorted generalizing entries sorted' with
  | nil =>
      symm
      apply List.eq_nil_iff_forall_not_mem.2
      intro x hx
      simpa using h.mem_iff.2 (h'.mem_iff.1 hx)
  | cons x sorted ih =>
      cases sorted' with
      | nil => simpa using h'.mem_iff.2 (h.mem_iff.1 List.mem_cons_self)
      | cons y sorted' =>
          have hkey : key x = key y := le_antisymm (h.head_le h') (h'.head_le h)
          have hfilter : ∀ k, (x :: sorted).filter (key · = k) =
              (y :: sorted').filter (key · = k) := by
            intro k
            rw [h.stable, h'.stable]
          obtain ⟨rfl, -⟩ : x = y ∧ _ := by
            have hsame := hfilter (key y)
            rw [List.filter_cons_of_pos (by simpa using hkey),
              List.filter_cons_of_pos (by simp)] at hsame
            exact List.cons.inj hsame
          have htail : ∀ k, sorted.filter (key · = k) = sorted'.filter (key · = k) := by
            intro k
            have hsame := hfilter k
            by_cases hk : key x = k
            · rw [List.filter_cons_of_pos (by simpa using hk),
                List.filter_cons_of_pos (by simpa using hk)] at hsame
              exact (List.cons.inj hsame).2
            · rwa [List.filter_cons_of_neg (by simpa using hk),
                List.filter_cons_of_neg (by simpa using hk)] at hsame
          rw [ih ⟨h.descending.of_cons, fun _ => rfl⟩
            ⟨h'.descending.of_cons, fun k => (htail k).symm⟩]

variable (key) in
/-- An entry put before the entries at the end that are lower. -/
def insertAfter (x : α) (sorted : List α) : List α :=
  sorted.rdropWhile (key · < key x) ++ x :: sorted.rtakeWhile (key · < key x)

theorem insertAfter_concat_of_lt {x y : α} (h : key y < key x) :
    insertAfter key x (sorted ++ [y]) = insertAfter key x sorted ++ [y] := by
  have h' : decide (key y < key x) = true := by simpa using h
  rw [insertAfter, List.rdropWhile_concat_pos (key · < key x) sorted y h',
    List.rtakeWhile_concat_pos (key · < key x) sorted y h', insertAfter]
  simp

theorem insertAfter_concat_of_le {x y : α} (h : key x ≤ key y) :
    insertAfter key x (sorted ++ [y]) = sorted ++ [y] ++ [x] := by
  have h' : ¬decide (key y < key x) = true := by simpa using h
  rw [insertAfter, List.rdropWhile_concat_neg (key · < key x) sorted y h',
    List.rtakeWhile_concat_neg (key · < key x) sorted y h']

theorem length_insertAfter (x : α) :
    (insertAfter key x sorted).length = sorted.length + 1 := by
  have hlength := congrArg List.length
    (List.rdropWhile_append_rtakeWhile (p := (key · < key x)) (l := sorted))
  rw [List.length_append] at hlength
  rw [insertAfter, List.length_append, List.length_cons]
  omega

/-- In a descending list, what stays in front of the entry is not lower. -/
theorem le_of_mem_rdropWhile {x y : α} (h : sorted.Pairwise fun x y => key y ≤ key x)
    (hy : y ∈ sorted.rdropWhile (key · < key x)) : key x ≤ key y := by
  induction sorted using List.reverseRecOn with
  | nil => simp at hy
  | append_singleton sorted z ih =>
      by_cases hz : key z < key x
      · rw [List.rdropWhile_concat_pos _ _ _ (by simpa using hz)] at hy
        exact ih (List.pairwise_append.1 h).1 hy
      · rw [List.rdropWhile_concat_neg _ _ _ (by simpa using hz)] at hy
        rcases List.mem_append.1 hy with hy | hy
        · exact (not_lt.1 hz).trans ((List.pairwise_append.1 h).2.2 y hy z (by simp))
        · rw [List.mem_singleton.1 hy]
          exact not_lt.1 hz

/-- One more entry, put behind those that are not lower. -/
theorem IsStableSort.insertAfter (h : IsStableSort key entries sorted) (x : α) :
    IsStableSort key (entries ++ [x]) (insertAfter key x sorted) := by
  have hsplit : sorted.rdropWhile (key · < key x) ++ sorted.rtakeWhile (key · < key x) = sorted :=
    List.rdropWhile_append_rtakeWhile
  have hbefore : ∀ y ∈ sorted.rdropWhile (key · < key x), key x ≤ key y :=
    fun y hy => le_of_mem_rdropWhile h.descending hy
  have hbehind : ∀ y ∈ sorted.rtakeWhile (key · < key x), key y < key x :=
    fun y hy => by simpa using List.mem_rtakeWhile_imp hy
  have hpairs := h.descending
  have hstable := h.stable
  unfold Ranking.insertAfter
  generalize sorted.rdropWhile (key · < key x) = before at hsplit hbefore ⊢
  generalize sorted.rtakeWhile (key · < key x) = behind at hsplit hbehind ⊢
  subst hsplit
  obtain ⟨hpairsBefore, hpairsBehind, hacross⟩ := List.pairwise_append.1 hpairs
  constructor
  · apply List.pairwise_append.2
    refine ⟨hpairsBefore, List.pairwise_cons.2 ⟨fun y hy => (hbehind y hy).le, hpairsBehind⟩, ?_⟩
    intro y hy z hz
    rcases List.mem_cons.1 hz with rfl | hz
    · exact hbefore y hy
    · exact hacross y hy z hz
  · intro k
    rw [List.filter_append, List.filter_append, ← hstable k, List.filter_append]
    by_cases hk : key x = k
    · have hnone : behind.filter (key · = k) = [] := by
        apply List.filter_eq_nil_iff.2
        intro y hy
        have hlt := hbehind y hy
        rw [hk] at hlt
        simpa using hlt.ne
      simp [hk, hnone]
    · simp [hk]

end StableSort

/-! ## The first of each name -/

section FirstOfEach

variable [DecidableEq β] (name : α → β)

/-- The first entry of each name. -/
def firstOfEach : List α → List α
  | [] => []
  | x :: l => x :: (firstOfEach l).filter (name · ≠ name x)

variable {name} {l : List α}

theorem firstOfEach_sublist : (firstOfEach name l).Sublist l := by
  induction l with
  | nil => exact .slnil
  | cons x l ih => exact (List.filter_sublist.trans ih).cons_cons x

theorem nodup_firstOfEach : ((firstOfEach name l).map name).Nodup := by
  induction l with
  | nil => exact .nil
  | cons x l ih =>
      rw [firstOfEach, List.map_cons, List.nodup_cons]
      constructor
      · simp
      · exact ih.sublist (List.filter_sublist.map name)

/-- Every entry has its name among the first ones. -/
theorem map_firstOfEach (b : β) : b ∈ (firstOfEach name l).map name ↔ b ∈ l.map name := by
  induction l with
  | nil => rfl
  | cons x l ih =>
      rw [firstOfEach, List.map_cons, List.map_cons, List.mem_cons, List.mem_cons, ← ih]
      by_cases hb : b = name x
      · simp [hb]
      · simp only [List.mem_map, List.mem_filter]
        grind

theorem length_firstOfEach : (firstOfEach name l).length = (l.map name).toFinset.card := by
  have hnames : ((firstOfEach name l).map name).toFinset = (l.map name).toFinset := by
    ext b
    rw [List.mem_toFinset, List.mem_toFinset, map_firstOfEach]
  rw [← hnames, List.toFinset_card_of_nodup nodup_firstOfEach, List.length_map]

theorem firstOfEach_append (l m : List α) : firstOfEach name (l ++ m) =
    firstOfEach name l ++ (firstOfEach name m).filter (name · ∉ l.map name) := by
  induction l with
  | nil => simp [firstOfEach]
  | cons x l ih =>
      rw [List.cons_append, firstOfEach, ih, firstOfEach, List.filter_append, List.filter_filter,
        List.cons_append]
      congr 2
      apply List.filter_congr
      intro y _
      simp [List.mem_cons]

theorem firstOfEach_concat_of_mem {x : α} (h : name x ∈ l.map name) :
    firstOfEach name (l ++ [x]) = firstOfEach name l := by
  rw [firstOfEach_append]
  simp only [firstOfEach, List.filter_nil, List.filter_cons, h]
  simp

theorem firstOfEach_concat_of_notMem {x : α} (h : name x ∉ l.map name) :
    firstOfEach name (l ++ [x]) = firstOfEach name l ++ [x] := by
  rw [firstOfEach_append]
  simp only [firstOfEach, List.filter_nil, List.filter_cons, h]
  simp

/-- The first entry of a name in a descending list is one of its highest. -/
theorem le_of_mem_firstOfEach {key : α → κ} (h : l.Pairwise fun x y => key y ≤ key x) {x y : α}
    (hx : x ∈ firstOfEach name l) (hy : y ∈ l) (hname : name y = name x) : key y ≤ key x := by
  induction l with
  | nil => simp at hy
  | cons z l ih =>
      rw [List.pairwise_cons] at h
      rcases List.mem_cons.1 hx with rfl | hx
      · rcases List.mem_cons.1 hy with rfl | hy
        · exact le_rfl
        · exact h.1 y hy
      · obtain ⟨hx, hne⟩ := List.mem_filter.1 hx
        rcases List.mem_cons.1 hy with rfl | hy
        · simp [hname] at hne
        · exact ih h.2 hx hy

/-- A name that is cut off is not higher than what stays. -/
theorem le_of_notMem_take {key : α → κ} (h : l.Pairwise fun x y => key y ≤ key x) {n : Nat}
    {x y : α} (hy : y ∈ l) (hcut : name y ∉ ((firstOfEach name l).take n).map name)
    (hx : x ∈ (firstOfEach name l).take n) : key y ≤ key x := by
  have hfirst : name y ∈ (firstOfEach name l).map name :=
    (map_firstOfEach _).2 (List.mem_map_of_mem hy)
  obtain ⟨z, hz, hname⟩ := List.mem_map.1 hfirst
  have hpairs : ((firstOfEach name l).take n ++ (firstOfEach name l).drop n).Pairwise
      fun x y => key y ≤ key x := by
    rw [List.take_append_drop]
    exact h.sublist firstOfEach_sublist
  have hlast : z ∈ (firstOfEach name l).drop n := by
    rw [← List.take_append_drop n (firstOfEach name l)] at hz
    rcases List.mem_append.1 hz with hz | hz
    · exact absurd (List.mem_map.2 ⟨z, hz, hname⟩) hcut
    · exact hz
  exact (le_of_mem_firstOfEach h (List.mem_of_mem_drop hlast) hy hname.symm).trans
    ((List.pairwise_append.1 hpairs).2.2 x hx z hlast)

end FirstOfEach

end Ranking
