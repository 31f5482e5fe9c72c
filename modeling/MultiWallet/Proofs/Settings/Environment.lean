import MultiWallet.Proofs.Settings.Acceptance
import MultiWallet.Proofs.Settings.Source
import MultiWallet.Proofs.Toml.Document

set_option autoImplicit false

namespace MultiWallet

open Toml

namespace Environment

variable {env : Environment} {name value : String}

def set (env : Environment) (name value : String) : Environment := fun other =>
  if other = name then some value else env other

theorem set_self : env.set name value name = some value := if_pos rfl

theorem set_other {other : String} (different : other ≠ name) :
    env.set name value other = env other := if_neg different

/-- The text with gaps for the references to one name, and the other references filled in. -/
def draft (env : Environment) (name : String) (text : List Char) : Draft :=
  match text with
  | '$' :: '\x7b' :: rest =>
    match _h : reference? rest with
    | some (other, after) =>
      (if other = name then [none] else ((env other).getD "").toList.map some) ++
        draft env name after
    | none => some '$' :: draft env name ('\x7b' :: rest)
  | c :: rest => some c :: draft env name rest
  | [] => []
termination_by text.length
decreasing_by
  · have := length_of_reference? _h
    simp only [List.length_cons]
    omega
  · simp
  · simp

theorem fillIn_reference {text after : List Char} (known : reference? text = some (name, after)) :
    env.fillIn ('$' :: '\x7b' :: text) = ((env name).getD "").toList ++ env.fillIn after := by
  rw [fillIn]
  split
  next same =>
    rw [known] at same
    cases same
    rfl
  next missing =>
    rw [known] at missing
    cases missing

theorem fillIn_brace {text : List Char} (missing : reference? text = none) :
    env.fillIn ('$' :: '\x7b' :: text) = '$' :: env.fillIn ('\x7b' :: text) := by
  rw [fillIn]
  split
  next same =>
    rw [missing] at same
    cases same
  next => rfl

theorem fillIn_set (text : List Char) :
    (env.set name value).fillIn text = (env.draft name text).fill value.toList := by
  fun_induction draft env name text with
  | case1 rest other after known ih =>
    rw [fillIn_reference known, ih, Draft.fill_append]
    congr 1
    by_cases same : other = name
    · rw [if_pos same, same, set_self]
      simp
    · rw [if_neg same, set_other same, Draft.fill_chars]
  | case2 rest missing ih => rw [fillIn_brace missing, ih, Draft.fill_char]
  | case3 c rest plain ih =>
    rw [fillIn, ih, Draft.fill_char]
    exact plain
  | case4 => rw [fillIn, Draft.fill_nil]

end Environment

namespace Settings

variable {env : Environment} {name text : String}

theorem told_of_no_gap {value value' : List Char} {drafts : List (String × Draft)} {i : Nat}
    {field : String} {draft : Draft} (known : drafts[i]? = some (field, draft))
    (whole : none ∉ draft) : (told value drafts)[i]? = (told value' drafts)[i]? := by
  rw [told, told, List.getElem?_map, List.getElem?_map, known, Option.map_some, Option.map_some,
    Draft.fill_of_no_gap whole]

/-- Where only basic strings that are values refer to a name, one document with gaps is what is read
for all plain values of it that have no quotes and backslashes. Of accepted settings those that are
texts are the document's with the value in their gaps, and with another value only texts with gaps
are others. -/
theorem filled_of_placed (inside : Placed .start (env.draft name text.toList)) :
    ∃ document : Option Source,
      (∀ value : String, Unquoted value.toList → Plain value.toList →
        Toml.read ((env.set name value).fillIn text.toList) =
          document.map (Source.fill value.toList)) ∧
      (∀ value settings, Unquoted value.toList →
        ofText (env.set name value) text = .ok settings →
          ∃ source, document = some source ∧
            settings.texts = told value.toList (drafts source)) ∧
      ∀ value value' settings settings', Unquoted value.toList → Unquoted value'.toList →
        ofText (env.set name value) text = .ok settings →
          ofText (env.set name value') text = .ok settings' →
            settings.withoutTexts = settings'.withoutTexts ∧
              ∀ source, document = some source → ∀ (i : Nat) (field : String) (draft : Draft),
                (drafts source)[i]? = some (field, draft) → none ∉ draft →
                  settings.texts[i]? = settings'.texts[i]? := by
  -- The draft decides whether there is a document at all; where there is none, nothing is accepted.
  rcases inside.read with fails | ⟨_, ⟨source, rfl⟩, reads⟩ <;> beta_reduce at *
  · have refused {value : String} {settings : Settings} (unquoted : Unquoted value.toList)
        (accepted : ofText (env.set name value) text = .ok settings) : False := by
      obtain ⟨read, -⟩ := read_of_ofText accepted
      rw [Environment.fillIn_set, fails _ unquoted] at read
      cases read
    refine ⟨none, fun value unquoted _ => ?_, fun value settings unquoted accepted => ?_,
      fun value _ settings _ unquoted _ accepted => ?_⟩
    · rw [Environment.fillIn_set, fails _ unquoted, Option.map_none]
    · exact (refused unquoted accepted).elim
    · exact (refused unquoted accepted).elim
  · have decoded {value : String} {settings : Settings} (unquoted : Unquoted value.toList)
        (accepted : ofText (env.set name value) text = .ok settings) :
        ofJson? (source.fill value.toList) = some settings := by
      obtain ⟨read, -⟩ := read_of_ofText accepted
      rw [Environment.fillIn_set] at read
      rcases reads value.toList unquoted with found | ⟨-, missing⟩
      · rwa [found] at read
      · rw [missing] at read
        cases read
    refine ⟨some source, fun value unquoted plain => ?_, fun value settings unquoted accepted => ?_,
      fun value value' settings settings' unquoted unquoted' accepted accepted' => ?_⟩
    · rw [Environment.fillIn_set]
      exact (reads value.toList unquoted).resolve_right fun odd => odd.1 plain
    · have known := decoded unquoted accepted
      exact ⟨source, rfl, (ofJson?_fill known known).1⟩
    · have known := decoded unquoted accepted
      have known' := decoded unquoted' accepted'
      obtain ⟨texts, others⟩ := ofJson?_fill known known'
      refine ⟨others, ?_⟩
      rintro _ ⟨⟩ i field draft there whole
      rw [texts, (ofJson?_fill known' known').1]
      exact told_of_no_gap there whole

def custodianText (lines : String) : String :=
  "[api]\nenabled=true\nhost=\"h\"\nport=1\n[metrics]\nenabled=true\nport=2\n" ++
    "[wallet]\npayload_path=\"w\"\n[custodial]\nbase_url=\"c\"\n" ++ lines ++
      "\n[fees]\nurl=\"f\"\n[signer]\nurl=\"s\"\n[[assets]]\ncurrency=\"STX\""

def secretText : String := custodianText "auth_token=\"$\x7bT\x7d\""

def assigned (run : List Char) (body rest : Draft) : Draft :=
  run.map some ++ some '"' :: (body ++ some '"' :: rest)

theorem placed_assigned {p : Place} {run : List Char} {body rest : Draft}
    (bare : run.all (openers.elem · == false) = true) (due : (run.foldl Place.next p).value = true)
    (plain : body.all (·.all fun c => isPlain c && c != '"' && c != '\\') = true)
    (ends : rest.head? ≠ some (some '"')) (later : Placed (run.foldl Place.next p) rest) :
    Placed p (assigned run body rest) := by
  refine .run (fun c member => ?_) (.basic due (.plain fun c member => ?_) ends later)
  · simpa using List.all_eq_true.1 bare c member
  · simpa [and_assoc] using List.all_eq_true.1 plain (some c) member

theorem secretText_placed :
    Placed .start (Environment.draft (fun _ => none) "T" secretText.toList) := by
  have pieces : Environment.draft (fun _ => none) "T" secretText.toList =
      assigned "[api]\nenabled=true\nhost=".toList [some 'h']
        (assigned "\nport=1\n[metrics]\nenabled=true\nport=2\n[wallet]\npayload_path=".toList
          [some 'w'] (assigned "\n[custodial]\nbase_url=".toList [some 'c']
            (assigned "\nauth_token=".toList [none]
              (assigned "\n[fees]\nurl=".toList [some 'f']
                (assigned "\n[signer]\nurl=".toList [some 's']
                  (assigned "\n[[assets]]\ncurrency=".toList [some 'S', some 'T', some 'X']
                    [])))))) := by
    decide +kernel
  rw [pieces]
  refine placed_assigned ?_ ?_ ?_ ?_ <| placed_assigned ?_ ?_ ?_ ?_ <|
    placed_assigned ?_ ?_ ?_ ?_ <| placed_assigned ?_ ?_ ?_ ?_ <| placed_assigned ?_ ?_ ?_ ?_ <|
      placed_assigned ?_ ?_ ?_ ?_ <| placed_assigned ?_ ?_ ?_ ?_ .nil
  all_goals decide +kernel

def custodianWith (value text : String) : Option (String × UInt64) :=
  (ofText (Environment.set (fun _ => none) "T" value) text).toOption.map fun settings =>
    (settings.custodian.token, settings.custodian.timeout)

theorem custodianWith_plain : custodianWith "a#b" secretText = some ("a#b", 30) := by
  decide +kernel

theorem filled_of_placed_secret :
    Placed .start (Environment.draft (fun _ => none) "T" secretText.toList) ∧
      Unquoted "a#b".toList ∧
        ∃ settings source,
          ofText (Environment.set (fun _ => none) "T" "a#b") secretText = .ok settings ∧
            settings.custodian.token = "a#b" ∧
              settings.texts = told "a#b".toList (drafts source) := by
  have unquoted : Unquoted "a#b".toList := by decide
  obtain ⟨settings, accepted, custodian⟩ := accepted_of_map custodianWith_plain
  obtain ⟨document, -, filled, -⟩ := filled_of_placed secretText_placed
  obtain ⟨source, -, texts⟩ := filled "a#b" settings unquoted accepted
  have token := congrArg Prod.fst custodian
  exact ⟨secretText_placed, unquoted, settings, source, accepted, token, texts⟩

/-- A quote in the value ends the text it stands in, and what follows sets another setting. A value
in a quoted key names a setting, and a value behind a backslash is a part of an escape. -/
theorem value_read_as_syntax :
    Placed .start (Environment.draft (fun _ => none) "T" secretText.toList) ∧
      custodianWith "a#b" secretText = some ("a#b", 30) ∧
      custodianWith "t\"\ntimeout_secs=5#" secretText = some ("t", 5) ∧
      custodianWith "timeout_secs" (custodianText "auth_token=\"t\"\n\"$\x7bT\x7d\"=5") =
        some ("t", 5) ∧
      custodianWith "other" (custodianText "auth_token=\"t\"\n\"$\x7bT\x7d\"=5") =
        some ("t", 30) ∧
      custodianWith "n" (custodianText "auth_token=\"\\$\x7bT\x7d\"") = some ("\n", 30) := by
  refine ⟨secretText_placed, custodianWith_plain, ?_, ?_, ?_, ?_⟩ <;> decide +kernel

end Settings

end MultiWallet
