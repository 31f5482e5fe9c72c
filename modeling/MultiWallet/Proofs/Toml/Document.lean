import MultiWallet.Proofs.Toml.Value

set_option autoImplicit false

namespace MultiWallet.Toml

open Draft

variable {d : Draft} {p : Place}

def expectAll : List Char → List Char → Option (List Char)
  | [], text => some text
  | c :: close, text => (expect c text).bind (expectAll close)

theorem expectAll_eq (close text : List Char) :
    expectAll close text =
      if close.isPrefixOf text then some (text.drop close.length) else none := by
  induction close generalizing text with
  | nil => rfl
  | cons c close ih =>
    rw [expectAll]
    obtain ⟨rest, rfl, found⟩ | ⟨other, missing⟩ := expect_cases c text
    · rw [found, Option.bind_some, ih]
      simp
    · rw [missing, Option.bind_none, if_neg]
      cases text with
      | nil => simp
      | cons first rest =>
        simp only [List.isPrefixOf_cons_cons, Bool.and_eq_true, beq_iff_eq]
        rintro ⟨rfl, -⟩
        exact other rest rfl

theorem readHeader_eq (make : List String → String → Statement Json) (close text : List Char) :
    readHeader make close text =
      (readKeys text).bind fun keys => keys.1.getLast?.bind fun key =>
        (expectAll close keys.2).map fun rest => (make keys.1.dropLast key, rest) := by
  unfold readHeader
  refine congrArg _ (funext fun keys => ?_)
  dsimp only
  refine congrArg _ (funext fun key => ?_)
  rw [expectAll_eq]
  split <;> rfl

theorem endLine_eq (text : List Char) :
    endLine text =
      if skipComment (skipSpaces text) = [] then some []
      else newline? (skipComment (skipSpaces text)) := by
  unfold endLine
  split
  next empty => rw [if_pos empty]
  next other => rw [if_neg other]

theorem statementsWithin_succ (limit : Nat) (text : List Char) :
    statementsWithin (limit + 1) text =
      if skipSpaces text = [] then some []
      else (readStatement (skipSpaces text)).bind fun statement =>
        (endLine statement.2).bind fun rest =>
          (statementsWithin limit rest).map (statement.1 :: ·) := by
  rw [statementsWithin]
  split
  next empty => rw [if_pos empty]
  next other =>
    rw [if_neg other]
    refine congrArg _ (funext fun statement => ?_)
    dsimp only
    exact congrArg _ (funext fun rest => (Option.map_eq_bind ..).symm)

theorem readStatement_table {text : List Char} (single : text.head? ≠ some '[') :
    readStatement ('[' :: text) = readHeader .table [']'] text := by
  rw [readStatement]
  rintro rest rfl
  exact single rfl

theorem readStatement_pair {c : Char} {text : List Char} (solid : c ∉ ['#', '\n', '\x0d', '[']) :
    readStatement (c :: text) =
      (readPair readValue (c :: text)).map fun found => (.pair found.1, found.2) := by
  unfold readStatement
  split <;> simp_all

def SourcedStatements (statements : List Char → List (Statement Json)) : Prop :=
  ∃ sources : List (Statement Source),
    statements = fun value => sources.map (Statement.map (Source.fill value))

def Continues (d : Draft) (result : List Char → Statement Json × List Char) : Prop :=
  ∃ statement : Statement Source, ∃ (q : Place) (rest : Draft), q.opened = [] ∧ Placed q rest ∧
    NoLonger rest d ∧ result = fun value => (statement.map (Source.fill value), rest.fill value)

theorem Continues.weaken {e : Draft} {result : List Char → Statement Json × List Char}
    (continues : Continues d result) (within : NoLonger d e) : Continues e result := by
  obtain ⟨statement, q, rest, outside, placed, noLonger, same⟩ := continues
  exact ⟨statement, q, rest, outside, placed, noLonger.trans within, same⟩

namespace Placed

theorem expectAll {close : List Char} (closes : ∀ c ∈ close, c = ']') (placed : Placed .start d) :
    Uniform (fun value => Toml.expectAll close (d.fill value)) fun result =>
      ∃ rest, Placed .start rest ∧ NoLonger rest d ∧ result = fun value => rest.fill value := by
  induction close generalizing d with
  | nil => exact .done ⟨d, placed, .refl d, rfl⟩ fun _ => rfl
  | cons c close ih =>
    obtain ⟨rfl, others⟩ := List.forall_mem_cons.1 closes
    refine (placed.expect (by decide)).bind ?_
    rintro _ ⟨rest, placed, shorter, rfl⟩
    refine (ih others placed).weaken ?_
    rintro _ ⟨last, placed, noLonger, rfl⟩
    exact ⟨last, placed, noLonger.trans shorter.noLonger, rfl⟩

theorem readHeader {make : List String → String → Statement Json}
    (made : ∀ path key, ∃ statement : Statement Source, ∀ value,
      statement.map (Source.fill value) = make path key)
    {close : List Char} (closes : ∀ c ∈ close, c = ']') (placed : Placed .start d) :
    Uniform (fun value => Toml.readHeader make close (d.fill value)) (Continues d) := by
  refine Uniform.congr ?_ fun value => readHeader_eq make close (d.fill value)
  refine (placed.readKeys rfl).bind ?_
  rintro _ ⟨_, ⟨keys, rfl⟩, rest, placed, shorter, rfl⟩
  dsimp only
  cases keys.getLast? with
  | none => exact .failed fun _ => rfl
  | some key =>
    refine (placed.expectAll closes).map ?_
    rintro _ ⟨last, placed, noLonger, rfl⟩
    obtain ⟨statement, same⟩ := made keys.dropLast key
    refine ⟨statement, .start, last, rfl, placed, noLonger.trans shorter.noLonger, ?_⟩
    simp only [same]

theorem readStatement (placed : Placed .start d) :
    Formed (fun value => Toml.readStatement (d.fill value)) (Continues d) := by
  have blank (unchanged : ∀ value,
      Toml.readStatement (d.fill value) = some (.blank, d.fill value)) :
      Formed (fun value => Toml.readStatement (d.fill value)) (Continues d) :=
    Uniform.formed (.done ⟨.blank, .start, d, rfl, placed, .refl d, rfl⟩ unchanged)
  rcases d with _ | ⟨_ | c, d⟩
  · exact blank fun _ => rfl
  · exact placed.not_gap.elim
  by_cases ending : c = '#' ∨ c = '\n' ∨ c = '\x0d'
  · rcases ending with rfl | rfl | rfl <;> exact blank fun _ => rfl
  by_cases header : c = '['
  · subst header
    have inside : Placed .start d := placed.later (by decide)
    have within : NoLonger d (some '[' :: d) := (shorter_cons _ _).noLonger
    by_cases double : ∃ rest, d = some '[' :: rest
    · obtain ⟨rest, rfl⟩ := double
      have inside : Placed .start rest := inside.later (by decide)
      have element :
          Uniform (fun value => Toml.readHeader .element [']', ']'] (fill value rest))
            (Continues rest) :=
        inside.readHeader (fun path key => ⟨.element path key, fun _ => rfl⟩) (by simp)
      exact element.formed.weaken fun _ continues =>
        continues.weaken ((shorter_cons _ _).noLonger.trans within)
    · have single := inside.fill_ne_cons fun rest same => double ⟨rest, same⟩
      refine Formed.congr ?_ fun value => readStatement_table (single value)
      refine (inside.readHeader (fun path key => ⟨.table path key, fun _ => rfl⟩)
        (by simp)).formed.weaken fun _ continues => continues.weaken within
  · have solid : c ∉ ['#', '\n', '\x0d', '['] := by simp_all
    refine Formed.congr ?_ fun value => readStatement_pair solid
    refine (placed.readPair (readsSources openLimit) rfl).map ?_
    rintro _ ⟨_, ⟨pair, rfl⟩, rest, later, shorter, rfl⟩
    exact ⟨.pair pair, _, rest, rfl, later, shorter.noLonger, rfl⟩

theorem endLine (outside : p.opened = []) (placed : Placed p d) :
    Uniform (fun value => Toml.endLine (d.fill value)) fun result =>
      ∃ rest, Placed .start rest ∧ (rest = [] ∨ Shorter rest d) ∧
        result = fun value => rest.fill value := by
  refine Uniform.congr ?_ fun value => endLine_eq (d.fill value)
  obtain ⟨spaced, inLine, noLonger, spaces, -⟩ := placed.skipSpaces
  obtain ⟨commented, atEnd, noLonger', comments⟩ := inLine.skipComment
  simp only [spaces, comments]
  by_cases ended : commented = []
  · subst ended
    exact .done ⟨[], .nil, .inl rfl, rfl⟩ fun _ => rfl
  · have line : p.next '\n' = .start := by
      obtain ⟨opened, due⟩ := p
      cases outside
      rfl
    have text (value : List Char) : commented.fill value ≠ [] :=
      fun empty => ended ((atEnd.fill_eq_nil value).1 empty)
    simp only [text, if_false]
    rcases atEnd.newline? with fails | ⟨_, ⟨rest, later, shorter, rfl⟩, reads⟩
    · exact .failed fails
    · rw [line] at later
      have shorter := shorter.noLonger_trans (noLonger'.trans noLonger)
      exact .done ⟨rest, later, .inr shorter, rfl⟩ reads

theorem statementsWithin {d : Draft} {limit : List Char → Nat}
    (within : Within d limit) (placed : Placed .start d) :
    Formed (fun value => Toml.statementsWithin (limit value) (d.fill value)) SourcedStatements := by
  refine Formed.congr ?_ fun value =>
    (congrArg (Toml.statementsWithin · (d.fill value)) (within.limit_eq value)).trans
      (statementsWithin_succ (limit value - 1) (d.fill value))
  obtain ⟨line, placed, noLonger, spaces, -⟩ := placed.skipSpaces
  simp only [spaces]
  by_cases ended : line = []
  · subst ended
    exact Uniform.formed (.done ⟨[], rfl⟩ fun _ => rfl)
  · have text (value : List Char) : line.fill value ≠ [] :=
      fun empty => ended ((placed.fill_eq_nil value).1 empty)
    simp only [text, if_false]
    refine placed.readStatement.bind ?_
    rintro _ ⟨statement, q, rest, outside, placed, noLonger', rfl⟩
    refine (placed.endLine outside).formed.bind ?_
    rintro _ ⟨next, placed, shorter, rfl⟩
    -- A blank statement takes nothing, so it is the end of the line that makes the text shorter.
    have shorter : Shorter next d := by
      rcases shorter with rfl | shorter
      · exact fun value => (List.length_pos_iff.2 (text value)).trans_le (noLonger value)
      · exact shorter.noLonger_trans (noLonger'.trans noLonger)
    refine (placed.statementsWithin (shorter.within within)).map ?_
    rintro _ ⟨statements, rfl⟩
    exact ⟨statement :: statements, rfl⟩
termination_by (d.fill []).length
decreasing_by exact shorter []

end Placed

theorem Placed.withoutMark (placed : Placed .start d) :
    ∃ rest, Placed .start rest ∧ ∀ value, Toml.withoutMark (d.fill value) = rest.fill value := by
  rcases d with _ | ⟨_ | c, d⟩
  · exact ⟨[], placed, fun _ => rfl⟩
  · exact placed.not_gap.elim
  · by_cases mark : c = '\ufeff'
    · subst mark
      exact ⟨d, placed.later (by decide), fun _ => rfl⟩
    · refine ⟨_, placed, fun value => ?_⟩
      rw [fill_char, Toml.withoutMark]
      rintro _ ⟨⟩
      exact mark rfl

theorem read_eq (text : List Char) :
    read text = (statementsWithin ((withoutMark text).length + 1) (withoutMark text)).bind
      fun statements => (statements.foldlM Document.step .empty).map fun document =>
        document.root.toJson := by
  unfold read
  dsimp only
  exact congrArg _ (funext fun statements => (Option.map_eq_bind ..).symm)

theorem Placed.read (placed : Placed .start d) :
    Formed (fun value => Toml.read (d.fill value)) Sourced := by
  refine Formed.congr ?_ fun value => read_eq (d.fill value)
  obtain ⟨text, placed, marks⟩ := placed.withoutMark
  simp only [marks]
  refine (placed.statementsWithin (within_length text)).bind ?_
  rintro _ ⟨statements, rfl⟩
  have built (value : List Char) :
      (statements.map (Statement.map (Source.fill value))).foldlM Document.step .empty =
        (statements.foldlM Document.step .empty).map (Document.map (Source.fill value)) :=
    foldlM_map (g := Document.map (Source.fill value)) Document.step_map statements Document.empty
  simp only [built]
  cases statements.foldlM Document.step .empty with
  | none => exact .inl fun _ _ => rfl
  | some document =>
    refine Uniform.formed (.done ⟨(Node.table .header document.root).toSource, rfl⟩ fun value => ?_)
    rw [← Node.toJson_map]
    rfl

end MultiWallet.Toml
