import MultiWallet.Proofs.Toml.Draft
import MultiWallet.Toml.Document

set_option autoImplicit false

namespace MultiWallet.Toml

inductive Source where
  | bool (b : Bool)
  | number (n : Json.Number)
  | text (draft : Draft)
  | array (items : List Source)
  | object (members : List (String × Source))

namespace Source

mutual

def fill (value : List Char) : Source → Json
  | .bool b => .bool b
  | .number n => .number n
  | .text draft => .string (String.ofList (draft.fill value))
  | .array items => .array (fillItems value items)
  | .object members => .object (fillMembers value members)

def fillItems (value : List Char) : List Source → List Json
  | [] => []
  | item :: rest => fill value item :: fillItems value rest

def fillMembers (value : List Char) : List (String × Source) → List (String × Json)
  | [] => []
  | (name, source) :: rest => (name, fill value source) :: fillMembers value rest

end

variable {value : List Char}

theorem fillItems_eq (items : List Source) : fillItems value items = items.map (fill value) := by
  induction items with
  | nil => rfl
  | cons item rest ih => rw [fillItems, ih, List.map_cons]

theorem fillMembers_eq (members : List (String × Source)) :
    fillMembers value members = members.map fun member => (member.1, fill value member.2) := by
  induction members with
  | nil => rfl
  | cons member rest ih => rw [fillMembers, ih, List.map_cons]

end Source

variable {α β : Type} {f : α → β}

theorem lookup_map (members : List (String × α)) (name : String) :
    (members.map fun member => (member.1, f member.2)).lookup name =
      (members.lookup name).map f := by
  induction members with
  | nil => rfl
  | cons member rest ih =>
    rw [List.map_cons, List.lookup_cons, List.lookup_cons]
    cases name == member.1 with
    | true => rfl
    | false => exact ih

namespace Node

mutual

def map (f : α → β) : Node α → Node β
  | .value v => .value (f v)
  | .table origin entries => .table origin (mapEntries f entries)
  | .tables elements => .tables (mapElements f elements)

def mapEntries (f : α → β) : List (String × Node α) → List (String × Node β)
  | [] => []
  | (name, node) :: rest => (name, map f node) :: mapEntries f rest

def mapElements (f : α → β) : List (List (String × Node α)) → List (List (String × Node β))
  | [] => []
  | entries :: rest => mapEntries f entries :: mapElements f rest

end

mutual

def toSource : Node Source → Source
  | .value v => v
  | .table _ entries => .object (sourcesOf entries)
  | .tables elements => .array (objectSourcesOf elements)

def sourcesOf : List (String × Node Source) → List (String × Source)
  | [] => []
  | (name, node) :: rest => (name, toSource node) :: sourcesOf rest

def objectSourcesOf : List (List (String × Node Source)) → List Source
  | [] => []
  | entries :: rest => .object (sourcesOf entries) :: objectSourcesOf rest

end

variable {value : List Char}

mutual

theorem toJson_map (node : Node Source) :
    (node.map (Source.fill value)).toJson = node.toSource.fill value := by
  cases node with
  | value v => rfl
  | table origin entries => rw [map, toJson, toSource, Source.fill, membersOf_map]
  | tables elements => rw [map, toJson, toSource, Source.fill, objectsOf_map]

theorem membersOf_map (entries : List (String × Node Source)) :
    membersOf (mapEntries (Source.fill value) entries) =
      Source.fillMembers value (sourcesOf entries) := by
  cases entries with
  | nil => rfl
  | cons entry rest =>
    rw [mapEntries, membersOf, sourcesOf, Source.fillMembers, toJson_map, membersOf_map]

theorem objectsOf_map (elements : List (List (String × Node Source))) :
    objectsOf (mapElements (Source.fill value) elements) =
      Source.fillItems value (objectSourcesOf elements) := by
  cases elements with
  | nil => rfl
  | cons entries rest =>
    rw [mapElements, objectsOf, objectSourcesOf, Source.fillItems, Source.fill, membersOf_map,
      objectsOf_map]

end

end Node

namespace Entries

abbrev map (f : α → β) (entries : Entries α) : Entries β := Node.mapEntries f entries

theorem map_eq (entries : Entries α) :
    entries.map f = List.map (fun entry => (entry.1, entry.2.map f)) entries := by
  induction entries with
  | nil => rfl
  | cons entry rest ih => rw [map, Node.mapEntries, ← map, ih, List.map_cons]

theorem lookup_map (entries : Entries α) (name : String) :
    (entries.map f).lookup name = (entries.lookup name).map (Node.map f) := by
  rw [map_eq]
  exact Toml.lookup_map entries name

theorem replace_map (entries : Entries α) (name : String) (node : Node α) :
    (entries.map f).replace name (node.map f) = (entries.replace name node).map f := by
  rw [map_eq, map_eq, replace, replace, List.map_map, List.map_map]
  refine List.map_congr_left fun entry _ => ?_
  dsimp only [Function.comp]
  split <;> rfl

theorem map_append (entries other : Entries α) :
    Entries.map f (entries ++ other) = entries.map f ++ other.map f := by
  rw [map_eq, map_eq, map_eq, List.map_append]

theorem add_map (entries : Entries α) (name : String) (node : Node α) :
    (entries.map f).add name (node.map f) = (entries.add name node).map (Entries.map f) := by
  unfold add
  rw [lookup_map, Option.isSome_map]
  split
  next => rfl
  next => rw [Option.map_some, map_append, map_eq [_]]; rfl

theorem mapElements_eq (elements : List (Entries α)) :
    Node.mapElements f elements = elements.map (Entries.map f) := by
  induction elements with
  | nil => rfl
  | cons entries rest ih => rw [Node.mapElements, ih, List.map_cons]

theorem changeAt_map {made : Origin} {change : Origin → Entries α → Option (Entries α)}
    {change' : Origin → Entries β → Option (Entries β)}
    (natural : ∀ origin entries,
      change' origin (Entries.map f entries) = (change origin entries).map (Entries.map f))
    (path : List String) (origin : Origin) (entries : Entries α) :
    changeAt made change' path origin (entries.map f) =
      (changeAt made change path origin entries).map (Entries.map f) := by
  induction path generalizing origin entries with
  | nil => exact natural origin entries
  | cons name path ih =>
    unfold changeAt
    rw [lookup_map]
    cases entries.lookup name with
    | none =>
      -- The table is made on the way, so the rest of the path starts at an empty one.
      have inner : changeAt made change' path made [] = _ := ih made []
      dsimp only [Option.map_none]
      rw [inner]
      cases changeAt made change path made [] with
      | none => rfl
      | some inner => exact congrArg some (map_append entries [(name, .table made inner)]).symm
    | some node =>
      cases node with
      | value v => rfl
      | table origin inner =>
        dsimp only [Option.map_some, Node.map]
        split
        next => rfl
        next =>
          rw [ih origin inner]
          cases changeAt made change path origin inner with
          | none => rfl
          | some inner => exact congrArg some (replace_map entries name (.table origin inner))
      | tables elements =>
        -- A path through an array of tables goes on in the last of them.
        dsimp only [Option.map_some, Node.map]
        rw [mapElements_eq, List.getLast?_map]
        cases elements.getLast? with
        | none => rfl
        | some last =>
          dsimp only [Option.map_some, Option.bind_eq_bind, Option.bind_some]
          rw [ih .header last]
          cases changeAt made change path .header last with
          | none => rfl
          | some inner =>
            refine Eq.trans ?_ (congrArg some
              (replace_map entries name (.tables (elements.dropLast ++ [inner]))))
            rw [Node.map, mapElements_eq, List.map_append, List.map_dropLast]
            rfl

theorem addPair_map (entries : Entries α) (path : List String) (key : String) (value : α) :
    (entries.map f).addPair path key (f value) =
      (entries.addPair path key value).map (Entries.map f) := by
  refine changeAt_map (fun origin entries => ?_) path .header entries
  split
  next => exact add_map entries key (.value value)
  next => rfl

theorem openTable_map (entries : Entries α) (path : List String) (key : String) :
    (entries.map f).openTable path key = (entries.openTable path key).map (Entries.map f) := by
  refine changeAt_map (fun _ entries => ?_) path .header entries
  rw [lookup_map]
  rcases entries.lookup key with _ | ⟨v | ⟨_ | _ | _, inner⟩ | elements⟩
  · exact add_map entries key (.table .header [])
  · rfl
  · rfl
  · exact congrArg some (replace_map entries key (.table .header inner))
  · rfl
  · rfl

theorem openElement_map (entries : Entries α) (path : List String) (key : String) :
    (entries.map f).openElement path key = (entries.openElement path key).map (Entries.map f) := by
  refine changeAt_map (fun _ entries => ?_) path .header entries
  rw [lookup_map]
  rcases entries.lookup key with _ | ⟨v | ⟨origin, inner⟩ | elements⟩
  · exact add_map entries key (.tables [[]])
  · rfl
  · rfl
  · refine Eq.trans ?_ (congrArg some (replace_map entries key (.tables (elements ++ [[]]))))
    rw [Node.map, mapElements_eq, List.map_append, ← mapElements_eq]
    rfl

end Entries

theorem foldlM_map {σ τ : Type} {step : σ → α → Option σ} {step' : τ → β → Option τ} {g : σ → τ}
    (natural : ∀ state a, step' (g state) (f a) = (step state a).map g) (list : List α)
    (state : σ) : (list.map f).foldlM step' (g state) = (list.foldlM step state).map g := by
  induction list generalizing state with
  | nil => rfl
  | cons a list ih =>
    rw [List.map_cons, List.foldlM_cons, List.foldlM_cons, natural]
    cases step state a with
    | none => rfl
    | some state => exact ih state

def Pair.map (f : α → β) (pair : Pair α) : Pair β :=
  { path := pair.path, key := pair.key, value := f pair.value }

theorem Entries.ofPairs?_map (pairs : List (Pair α)) :
    Entries.ofPairs? (pairs.map (Pair.map f)) = (Entries.ofPairs? pairs).map (Entries.map f) := by
  unfold ofPairs?
  refine foldlM_map (g := Entries.map f) (fun entries pair => ?_) pairs []
  exact Entries.addPair_map entries pair.path pair.key pair.value

def Statement.map (f : α → β) : Statement α → Statement β
  | .blank => .blank
  | .pair p => .pair (p.map f)
  | .table path key => .table path key
  | .element path key => .element path key

namespace Document

def map (f : α → β) (d : Document α) : Document β := { d with root := d.root.map f }

theorem step_map (d : Document α) (statement : Statement α) :
    (d.map f).step (statement.map f) = (d.step statement).map (Document.map f) := by
  cases statement with
  | blank => rfl
  | pair p =>
    have natural : (d.root.map f).changeAt .implied
        (fun _ entries => entries.addPair p.path p.key (f p.value)) d.current .header =
          (d.root.changeAt .implied (fun _ entries => entries.addPair p.path p.key p.value)
            d.current .header).map (Entries.map f) :=
      Entries.changeAt_map (fun _ entries => Entries.addPair_map entries p.path p.key p.value) ..
    unfold step Statement.map
    dsimp only [map, Pair.map]
    rw [natural]
    cases Entries.changeAt .implied _ d.current .header d.root <;> rfl
  | table path key =>
    unfold step Statement.map
    dsimp only [map]
    rw [Entries.openTable_map]
    cases d.root.openTable path key <;> rfl
  | element path key =>
    unfold step Statement.map
    dsimp only [map]
    rw [Entries.openElement_map]
    cases d.root.openElement path key <;> rfl

end Document

end MultiWallet.Toml
