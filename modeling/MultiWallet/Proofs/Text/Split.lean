import Mathlib.Data.String.Basic

set_option autoImplicit false

namespace MultiWallet.Text

open String

variable (c d : Char) (l m r : List Char) (acc : List String)

theorem get_singleton : Pos.Raw.get (singleton c) 0 = c := get_of_valid [] [c]

theorem next_singleton : Pos.Raw.next (singleton c) 0 = ⟨c.utf8Size⟩ := by
  simpa using next_of_valid [] c []

theorem atEnd_singleton : Pos.Raw.atEnd (singleton c) ⟨c.utf8Size⟩ = true := by
  rw [atEnd_iff, singleton_eq_ofList, rawEndPos_ofList]
  simp

theorem not_atEnd : ¬ Pos.Raw.atEnd (ofList (l ++ d :: r)) ⟨utf8Len l⟩ = true := by
  have := d.utf8Size_pos
  simp only [atEnd_iff, rawEndPos_ofList, utf8Len_append, utf8Len_cons, Pos.Raw.le_iff]
  omega

-- One step of the loop: the piece `m` has begun behind `l`, and the text goes on with `r`.
theorem splitOnAux_end :
    (ofList (l ++ m)).splitOnAux (singleton c) ⟨utf8Len l⟩ ⟨utf8Len (l ++ m)⟩ 0 acc =
      acc.reverse ++ [ofList m] := by
  have piece : Pos.Raw.extract (ofList (l ++ m)) ⟨utf8Len l⟩ ⟨utf8Len (l ++ m)⟩ = ofList m := by
    simpa using extract_of_valid l m []
  rw [splitOnAux, if_pos (by simp [atEnd_iff, -ofList_append])]
  simp only [List.reverse_cons, piece]

theorem splitOnAux_sep :
    (ofList (l ++ m ++ c :: r)).splitOnAux (singleton c) ⟨utf8Len l⟩ ⟨utf8Len (l ++ m)⟩ 0 acc =
      (ofList (l ++ m ++ c :: r)).splitOnAux (singleton c) ⟨utf8Len (l ++ m ++ [c])⟩
        ⟨utf8Len (l ++ m ++ [c])⟩ 0 (ofList m :: acc) := by
  have piece : Pos.Raw.extract (ofList (l ++ m ++ c :: r)) ⟨utf8Len l⟩ ⟨utf8Len (l ++ m)⟩ =
      ofList m := by
    rw [utf8Len_append]
    exact extract_of_valid l m (c :: r)
  have back : Pos.Raw.unoffsetBy ⟨utf8Len (l ++ m) + c.utf8Size⟩ ⟨c.utf8Size⟩ =
      (⟨utf8Len (l ++ m)⟩ : Pos.Raw) := by
    simp [Pos.Raw.unoffsetBy]
  rw [splitOnAux, if_neg (not_atEnd c (l ++ m) r), get_of_valid,
    if_pos (by simp [get_singleton])]
  simp only [next_of_valid, next_singleton, if_pos (atEnd_singleton c), back, piece]
  rw [utf8Len_append _ [c], utf8Len_cons, utf8Len_nil, Nat.zero_add]

theorem splitOnAux_char (other : d ≠ c) :
    (ofList (l ++ m ++ d :: r)).splitOnAux (singleton c) ⟨utf8Len l⟩ ⟨utf8Len (l ++ m)⟩ 0 acc =
      (ofList (l ++ m ++ d :: r)).splitOnAux (singleton c) ⟨utf8Len l⟩
        ⟨utf8Len (l ++ (m ++ [d]))⟩ 0 acc := by
  have still : Pos.Raw.unoffsetBy ⟨utf8Len (l ++ m)⟩ 0 = (⟨utf8Len (l ++ m)⟩ : Pos.Raw) := by
    simp [Pos.Raw.unoffsetBy]
  rw [splitOnAux, if_neg (not_atEnd d (l ++ m) r), get_of_valid,
    if_neg (by simp [get_singleton, other]), still, next_of_valid, ← List.append_assoc,
    utf8Len_append _ [d], utf8Len_cons, utf8Len_nil, Nat.zero_add]

theorem splitOnAux_eq :
    (ofList (l ++ m ++ r)).splitOnAux (singleton c) ⟨utf8Len l⟩ ⟨utf8Len (l ++ m)⟩ 0 acc =
      acc.reverse ++ (List.splitOnPPrepend (· == c) r m.reverse).map ofList := by
  induction r generalizing l m acc with
  | nil =>
    rw [List.append_nil, splitOnAux_end]
    simp
  | cons d r ih =>
    rw [List.splitOnPPrepend_cons_eq_if]
    by_cases same : d = c
    next =>
      subst same
      have rest := ih (l ++ m ++ [d]) [] (ofList m :: acc)
      rw [List.append_nil, List.append_assoc, List.singleton_append] at rest
      rw [splitOnAux_sep, rest]
      simp
    next =>
      have rest := ih l (m ++ [d]) acc
      rw [← List.append_assoc, List.append_assoc (l ++ m), List.singleton_append] at rest
      rw [splitOnAux_char c d l m r acc same, ← List.append_assoc, rest]
      simp [same]

theorem splitOn_singleton (text : String) :
    text.splitOn (singleton c) = (text.toList.splitOn c).map ofList := by
  have whole := splitOnAux_eq c [] [] text.toList []
  simp only [List.nil_append, ofList_toList, List.reverse_nil] at whole
  rw [splitOn, if_neg (by simp)]
  exact whole

theorem splitOn_intercalate (pieces : List (List Char)) (nonempty : pieces ≠ [])
    (without : ∀ piece ∈ pieces, c ∉ piece) :
    (ofList ([c].intercalate pieces)).splitOn (singleton c) = pieces.map ofList := by
  rw [splitOn_singleton, toList_ofList, List.splitOn_intercalate c without nonempty]

end MultiWallet.Text
