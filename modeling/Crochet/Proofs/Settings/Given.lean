/-
# Crochet.Proofs.Settings.Given -- settings that are given in part

A document gives some of the seven settings, each under its name, in any order
and among fields of other names.  `Given` is what it gives and `Spelled` how:
one field for each setting given, and no other of that name.  What is given
stands in the place of the usual setting, and nothing else is changed.
-/
import Crochet.Proofs.Json.Records
import Crochet.Proofs.Settings

set_option autoImplicit false

namespace Crochet.Settings

/-! ## What is given -/

/-- The settings that a document gives; the cap may be given as no cap. -/
structure Given where
  layerHeight : Option Float
  radiusScale : Option Float
  crossSag : Option Float
  kind : Option StitchKind
  sag : Option Float
  thickness : Option Float
  maxStitches : Option (Option Count)

/-- The usual settings with the given ones in their places. -/
def Given.settings (given : Given) : Settings where
  layerHeight := given.layerHeight.getD usual.layerHeight
  radiusScale := given.radiusScale.getD usual.radiusScale
  crossSag := given.crossSag.getD usual.crossSag
  layout := {
    kind := given.kind.getD usual.layout.kind
    sag := given.sag.getD usual.layout.sag
    thickness := given.thickness.getD usual.layout.thickness
    maxStitches := given.maxStitches.getD usual.layout.maxStitches }

/-- The names of all settings. -/
def names : List String := ownNames ++ Layout.names

/-! ## How it is spelled -/

/-- A number literal spells the float it is read at. -/
inductive SpellsFloat : Float → Json → Prop where
  | number {x : Float} (n : Json.Number) (inRange : n.float? = some x) : SpellsFloat x (.number n)

/-- A kind is spelled by its name, alone or around nothing. -/
inductive SpellsKind (kind : StitchKind) : Json → Prop where
  | name : SpellsKind kind (.ofText kind.name)
  | aroundNull : SpellsKind kind (.ofFields [(kind.name, .null)])
  | aroundEmpty : SpellsKind kind (.ofFields [(kind.name, .ofFields [])])

/-- A cap is spelled by its digits, and no cap by `null`. -/
inductive SpellsCap : Option Count → Json → Prop where
  | null : SpellsCap none .null
  | number (limit : Count) : SpellsCap (some limit) (.ofNat limit.toNat)

/-- The fields of a name. -/
def named (name : String) (fields : Json.Fields) : Json.Fields :=
  fields.filter fun field => field.1 == name

/-- The fields give a value under a name, once and in one of its spellings, or they do not use
the name. -/
inductive Gives {α : Type} (fields : Json.Fields) (name : String) (Spells : α → Json → Prop) :
    Option α → Prop where
  | once {a : α} {value : Json} (only : named name fields = [(name, value)])
    (spells : Spells a value) : Gives fields name Spells (some a)
  | never (unused : named name fields = []) : Gives fields name Spells none

/-- A value that a settings document may hold: it can be read and leaves room for the document
around it. -/
def Readable (value : Json) : Prop := value.isSound = true ∧ value.depth < depthLimit

/-- The fields spell what is given, in any order and among readable fields of other names. -/
structure Given.Spelled (given : Given) (fields : Json.Fields) : Prop where
  layerHeight : Gives fields "layer_height" SpellsFloat given.layerHeight
  radiusScale : Gives fields "radius_scale" SpellsFloat given.radiusScale
  crossSag : Gives fields "cross_sag" SpellsFloat given.crossSag
  kind : Gives fields "stitch_kind" SpellsKind given.kind
  sag : Gives fields "round_sag" SpellsFloat given.sag
  thickness : Gives fields "yarn_thickness" SpellsFloat given.thickness
  maxStitches : Gives fields "max_stitches" SpellsCap given.maxStitches
  others : ∀ field ∈ fields, field.1 ∉ names → Readable field.2

/-! ## Every spelling is read -/

theorem SpellsFloat.read {x : Float} {value : Json} (spells : SpellsFloat x value) :
    value.float? = some x := by
  cases spells with
  | number n inRange => exact inRange

theorem SpellsFloat.readable {x : Float} {value : Json} (spells : SpellsFloat x value) :
    Readable value := by
  cases spells with
  | number n inRange => exact ⟨by simp [Json.isSound, inRange], by simp [Json.depth, depthLimit]⟩

theorem SpellsKind.read {kind : StitchKind} {value : Json} (spells : SpellsKind kind value) :
    value.choice? Json.isNullOrEmpty StitchKind.byName = some kind := by
  cases spells <;> cases kind <;> rfl

theorem SpellsKind.readable {kind : StitchKind} {value : Json} (spells : SpellsKind kind value) :
    Readable value := by
  cases spells <;> cases kind <;> exact ⟨rfl, by decide⟩

theorem SpellsCap.read {cap : Option Count} {value : Json} (spells : SpellsCap cap value) :
    value.nullable? Json.uint32? = some cap := by
  cases spells with
  | null => rfl
  | number limit => simp [Json.nullable?_ofNat]

theorem SpellsCap.readable {cap : Option Count} {value : Json} (spells : SpellsCap cap value) :
    Readable value := by
  cases spells with
  | null => exact ⟨rfl, by decide⟩
  | number limit =>
      obtain ⟨x, inRange⟩ := Json.Number.float?_ofNat (n := limit.toNat)
        (limit.toNat_lt.trans (by decide))
      exact SpellsFloat.readable (.number _ inRange)

section Gives

variable {α : Type} {fields : Json.Fields} {name : String} {Spells : α → Json → Prop}
  {given : Option α}

theorem Gives.length_le (gives : Gives fields name Spells given) :
    (named name fields).length ≤ 1 := by
  cases gives with
  | once only spells => rw [only]; exact le_rfl
  | never unused => rw [unused]; exact Nat.zero_le 1

/-- What is given under a name is read, and the default when nothing is. -/
theorem Gives.optional? {value? : Json → Option α} (gives : Gives fields name Spells given)
    (read : ∀ {a value}, Spells a value → value? value = some a) (default : α) :
    fields.optional? name default value? = some (given.getD default) := by
  have first : fields.lookup name = (named name fields).head?.map Prod.snd :=
    Json.lookup_eq_head? fields name
  rw [Json.Fields.optional?, first]
  cases gives with
  | once only spells => rw [only]; exact read spells
  | never unused => rw [unused]; rfl

/-- The values under the name are readable, if all spellings are. -/
theorem Gives.readable (gives : Gives fields name Spells given)
    (readable : ∀ {a value}, Spells a value → Readable value) {field : String × Json}
    (inside : field ∈ fields) (hasName : field.1 = name) : Readable field.2 := by
  have isNamed : field ∈ named name fields := List.mem_filter.mpr ⟨inside, beq_iff_eq.mpr hasName⟩
  cases gives with
  | once only spells =>
      rw [only, List.mem_singleton] at isNamed
      rw [isNamed]
      exact readable spells
  | never unused =>
      rw [unused] at isNamed
      cases isNamed

end Gives

namespace Given.Spelled

variable {given : Given} {fields : Json.Fields}

/-- Every setting is given in readable spellings, or not given. -/
theorem gives (spelled : given.Spelled fields) {name : String} (known : name ∈ names) :
    ∃ (α : Type) (Spells : α → Json → Prop) (value : Option α), Gives fields name Spells value ∧
      ∀ a value, Spells a value → Readable value := by
  simp only [names, ownNames, Layout.names, List.cons_append, List.nil_append, List.mem_cons,
    List.not_mem_nil, or_false] at known
  rcases known with rfl | rfl | rfl | rfl | rfl | rfl | rfl
  · exact ⟨_, _, _, spelled.layerHeight, fun _ _ => SpellsFloat.readable⟩
  · exact ⟨_, _, _, spelled.radiusScale, fun _ _ => SpellsFloat.readable⟩
  · exact ⟨_, _, _, spelled.crossSag, fun _ _ => SpellsFloat.readable⟩
  · exact ⟨_, _, _, spelled.kind, fun _ _ => SpellsKind.readable⟩
  · exact ⟨_, _, _, spelled.sag, fun _ _ => SpellsFloat.readable⟩
  · exact ⟨_, _, _, spelled.thickness, fun _ _ => SpellsFloat.readable⟩
  · exact ⟨_, _, _, spelled.maxStitches, fun _ _ => SpellsCap.readable⟩

theorem noneTwice (spelled : given.Spelled fields) : Json.noneTwice names fields = true := by
  rw [Json.noneTwice, List.all_eq_true]
  intro name known
  obtain ⟨_, _, _, gives, -⟩ := spelled.gives known
  exact decide_eq_true gives.length_le

/-- Every field of the document is readable, whether its name is known or not. -/
theorem readable (spelled : given.Spelled fields) {field : String × Json}
    (inside : field ∈ fields) : Readable field.2 := by
  by_cases known : field.1 ∈ names
  · obtain ⟨_, _, _, gives, allReadable⟩ := spelled.gives known
    exact gives.readable (allReadable _ _) inside rfl
  · exact spelled.others field inside known

theorem layout (spelled : given.Spelled fields) :
    Layout.ofFields? Json.isNullOrEmpty fields = some given.settings.layout := by
  simp [Layout.ofFields?, spelled.kind.optional? SpellsKind.read,
    spelled.sag.optional? SpellsFloat.read, spelled.thickness.optional? SpellsFloat.read,
    spelled.maxStitches.optional? SpellsCap.read, Given.settings, usual]

/-- A document stands for the usual settings with what it gives in their places. -/
theorem ofJson? (spelled : given.Spelled fields) :
    Settings.ofJson? (.ofFields fields) = some given.settings := by
  have sound : (Json.ofFields fields).isSound = true :=
    Json.isSound_ofFields fun field inside => (spelled.readable inside).1
  have shallow : (Json.ofFields fields).depth ≤ depthLimit :=
    Json.depth_ofFields_le fun field inside => Nat.le_of_lt_succ (spelled.readable inside).2
  have once : Json.noneTwice (ownNames ++ Layout.names) fields = true := spelled.noneTwice
  have members := Json.members?_map fields
  rw [Json.ofFields] at sound shallow ⊢
  simp [Settings.ofJson?, sound, shallow, members, once, spelled.layout,
    spelled.layerHeight.optional? SpellsFloat.read, spelled.radiusScale.optional? SpellsFloat.read,
    spelled.crossSag.optional? SpellsFloat.read, Given.settings]

end Given.Spelled

/-! ## Order and other fields -/

/-- The fields that are settings. -/
def known (fields : Json.Fields) : Json.Fields := fields.filter fun field => field.1 ∈ names

theorem named_known {name : String} (isKnown : name ∈ names) (fields : Json.Fields) :
    named name (known fields) = named name fields := by
  rw [named, known, List.filter_filter]
  refine List.filter_congr fun field _ => ?_
  by_cases same : field.1 = name
  · simp [same, isKnown]
  · simp [same]

theorem Gives.perm {α : Type} {fields others : Json.Fields} {name : String}
    {Spells : α → Json → Prop} {given : Option α} (gives : Gives fields name Spells given)
    (perm : (named name others).Perm (named name fields)) : Gives others name Spells given := by
  cases gives with
  | once only spells =>
      rw [only] at perm
      exact .once perm.eq_singleton spells
  | never unused =>
      rw [unused] at perm
      exact .never perm.eq_nil

/-- The order of the settings and the other fields say nothing. -/
theorem Given.Spelled.alike {given : Given} {fields others : Json.Fields}
    (spelled : given.Spelled fields) (perm : (known others).Perm (known fields))
    (readable : ∀ field ∈ others, field.1 ∉ names → Readable field.2) : given.Spelled others := by
  have same {name : String} (isKnown : name ∈ names) :
      (named name others).Perm (named name fields) := by
    rw [← named_known isKnown others, ← named_known isKnown fields]
    exact perm.filter _
  exact {
    layerHeight := spelled.layerHeight.perm (same (by decide))
    radiusScale := spelled.radiusScale.perm (same (by decide))
    crossSag := spelled.crossSag.perm (same (by decide))
    kind := spelled.kind.perm (same (by decide))
    sag := spelled.sag.perm (same (by decide))
    thickness := spelled.thickness.perm (same (by decide))
    maxStitches := spelled.maxStitches.perm (same (by decide))
    others := readable }

/-! ## Documents -/

/-- **Settings that are given in part.**  A document that gives some settings, each once and in any
order among readable fields of other names, stands for the usual settings with the given ones in
their places.  These are accepted exactly when all requirements are met, and otherwise refused for
the first one that is not.  So two documents with the same settings in them, whatever their order
and whatever else is there, have the same result. -/
theorem ofString_given :
    (∀ (given : Given) (text : String) (fields : Json.Fields),
      Json.ofString? text = some (.ofFields fields) → given.Spelled fields →
        (Json.ofString? text).bind ofJson? = some given.settings ∧
        (∀ s, ofString text = .ok s ↔
          s = given.settings ∧ ∀ r : Requirement, r.Met given.settings) ∧
        ∀ e, ofString text = .error e ↔
          ∃ r : Requirement, r.IsFirstUnmet given.settings ∧ e = .validation r.message) ∧
    ∀ (given : Given) (text other : String) (fields others : Json.Fields),
      Json.ofString? text = some (.ofFields fields) → given.Spelled fields →
      Json.ofString? other = some (.ofFields others) → (known others).Perm (known fields) →
      (∀ field ∈ others, field.1 ∉ names → Readable field.2) → ofString other = ofString text := by
  have decoded {given : Given} {text : String} {fields : Json.Fields}
      (isText : Json.ofString? text = some (.ofFields fields)) (spelled : given.Spelled fields) :
      (Json.ofString? text).bind ofJson? = some given.settings := by
    rw [isText, Option.bind_some, spelled.ofJson?]
  have checked {given : Given} {text : String} {fields : Json.Fields}
      (isText : Json.ofString? text = some (.ofFields fields)) (spelled : given.Spelled fields) :
      ofString text = given.settings.check := by
    rw [ofString, decoded isText spelled]
  constructor
  · intro given text fields isText spelled
    rw [checked isText spelled]
    exact ⟨decoded isText spelled, fun s => check_eq_ok_iff, fun e => check_eq_error_iff⟩
  · intro given text other fields others isText spelled isOther perm readable
    rw [checked isText spelled, checked isOther (spelled.alike perm readable)]

/-! Two documents for tall stitches, and one that two requirements are against. -/

def tallText : String :=
  "\x7b\"round_sag\": 0.5, \"note\": [null], \"stitch_kind\": \"DoubleCrochet\"\x7d"

def swappedText : String := "\x7b\"stitch_kind\": \"DoubleCrochet\", \"round_sag\": 0.5\x7d"

def faultyText : String := "\x7b\"max_stitches\": 0, \"cross_sag\": -0.5\x7d"

def half (negative : Bool) : Json.Number :=
  { negative, whole := 0, fraction := ['5'], exponent := none }

def tallFields : Json.Fields := [("round_sag", .number (half false)), ("note", .array [.null]),
  ("stitch_kind", .ofText "DoubleCrochet")]

def swappedFields : Json.Fields :=
  [("stitch_kind", .ofText "DoubleCrochet"), ("round_sag", .number (half false))]

def faultyFields : Json.Fields := [("max_stitches", .ofNat 0), ("cross_sag", .number (half true))]

theorem tallText_fields : Json.ofString? tallText = some (.ofFields tallFields) := by
  have tokens : Json.Token.scan tallText.toList = some [.openObject, .string (some "round_sag"),
      .colon, .number (half false), .comma, .string (some "note"), .colon, .openArray, .null,
      .closeArray, .comma, .string (some "stitch_kind"), .colon, .string (some "DoubleCrochet"),
      .closeObject] := by decide +kernel
  rw [Json.ofString?, tokens]
  rfl

theorem swappedText_fields : Json.ofString? swappedText = some (.ofFields swappedFields) := by
  have tokens : Json.Token.scan swappedText.toList = some [.openObject,
      .string (some "stitch_kind"), .colon, .string (some "DoubleCrochet"), .comma,
      .string (some "round_sag"), .colon, .number (half false), .closeObject] := by decide +kernel
  rw [Json.ofString?, tokens]
  rfl

theorem faultyText_fields : Json.ofString? faultyText = some (.ofFields faultyFields) := by
  have tokens : Json.Token.scan faultyText.toList = some [.openObject,
      .string (some "max_stitches"), .colon, .number (.ofNat 0), .comma, .string (some "cross_sag"),
      .colon, .number (half true), .closeObject] := by decide +kernel
  rw [Json.ofString?, tokens]
  rfl

def Given.nothing : Given where
  layerHeight := none
  radiusScale := none
  crossSag := none
  kind := none
  sag := none
  thickness := none
  maxStitches := none

def tall : Given := { Given.nothing with kind := some .doubleCrochet, sag := some 0.5 }

def faulty : Given := { Given.nothing with crossSag := some (-0.5), maxStitches := some (some 0) }

theorem tall_spelled : tall.Spelled tallFields where
  layerHeight := .never rfl
  radiusScale := .never rfl
  crossSag := .never rfl
  kind := .once rfl .name
  sag := .once rfl (.number _ (by decide +kernel))
  thickness := .never rfl
  maxStitches := .never rfl
  others := by
    have note : Readable (.array [.null]) := ⟨by decide, by decide⟩
    simp [tallFields, names, ownNames, Layout.names, note]

theorem faulty_spelled : faulty.Spelled faultyFields where
  layerHeight := .never rfl
  radiusScale := .never rfl
  crossSag := .once rfl (.number _ (by decide +kernel))
  kind := .never rfl
  sag := .never rfl
  thickness := .never rfl
  maxStitches := .once rfl (.number 0)
  others := by simp [faultyFields, names, ownNames, Layout.names]

theorem ofString_given_tall :
    Json.ofString? tallText = some (.ofFields tallFields) ∧ tall.Spelled tallFields ∧
      ofString tallText = .ok tall.settings ∧ ofString swappedText = ofString tallText ∧
      ofString faultyText = .error (.validation "cross_sag must be finite and >= 0") := by
  obtain ⟨-, accepted, -⟩ := ofString_given.1 tall tallText tallFields tallText_fields tall_spelled
  obtain ⟨-, -, refused⟩ :=
    ofString_given.1 faulty faultyText faultyFields faultyText_fields faulty_spelled
  have swapped : (known swappedFields).Perm (known tallFields) := .swap _ _ []
  have same := ofString_given.2 tall tallText swappedText tallFields swappedFields tallText_fields
    tall_spelled swappedText_fields swapped
    (by simp [swappedFields, names, ownNames, Layout.names])
  have met (r : Requirement) : r.Met tall.settings := by
    cases r <;> decide +kernel
  have first : Requirement.crossSag.IsFirstUnmet faulty.settings :=
    ⟨by decide +kernel, [.layerHeight, .radiusScale, .thickness], [.sag, .maxStitches], rfl,
      by decide +kernel⟩
  exact ⟨tallText_fields, tall_spelled, (accepted _).mpr ⟨rfl, met⟩, same,
    (refused _).mpr ⟨.crossSag, first, rfl⟩⟩

end Crochet.Settings
