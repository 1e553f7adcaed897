/-
# Crochet.Proofs.Json.Records -- what is made a value is read at its type

Each way to make a value is undone by the reader of its type: texts, lists,
numbers of 32 and 64 bits, and objects of named fields.
-/
import Crochet.Json.Printer
import Crochet.Json.Record
import Crochet.Proofs.Json.Reading

set_option autoImplicit false

namespace Crochet.Json

@[simp] theorem text?_ofText (text : String) : (ofText text).text? = some text := rfl

theorem nat?_ofNat {bound n : Nat} (fits : n < bound) : (ofNat n).nat? bound = some n := by
  simp [nat?, ofNat, Number.nat?, Number.ofNat, fits]

theorem lt_of_nat? {bound n : Nat} {value : Json} (read : value.nat? bound = some n) :
    n < bound := by
  cases value with
  | number literal => simpa using (Option.filter_eq_some_iff.mp read).2
  | _ => cases read

@[simp] theorem uint32?_ofNat (n : UInt32) : (ofNat n.toNat).uint32? = some n := by
  simp [uint32?, nat?_ofNat n.toNat_lt]

@[simp] theorem uint64?_ofNat (n : UInt64) : (ofNat n.toNat).uint64? = some n := by
  simp [uint64?, nat?_ofNat n.toNat_lt]

/-- A number is not `null`. -/
theorem nullable?_ofNat {α : Type} (value? : Json → Option α) (n : Nat) :
    nullable? value? (ofNat n) = (value? (ofNat n)).map some := rfl

/-- A list of items that are each read back is read back. -/
theorem list?_map_of_mem {α : Type} {item? : Json → Option α} {toJson : α → Json}
    {items : List α} (inverse : ∀ a ∈ items, item? (toJson a) = some a) :
    list? item? (.array (items.map toJson)) = some items := by
  show (items.map toJson).mapM item? = some items
  induction items with
  | nil => rfl
  | cons a items ih =>
      have first : item? (toJson a) = some a := inverse a List.mem_cons_self
      have rest := ih fun b inside => inverse b (List.mem_cons_of_mem a inside)
      simp [List.mapM_cons, first, rest]

theorem list?_map {α : Type} {item? : Json → Option α} {toJson : α → Json}
    (inverse : ∀ a, item? (toJson a) = some a) (items : List α) :
    list? item? (.array (items.map toJson)) = some items :=
  list?_map_of_mem fun a _ => inverse a

/-- Each item of a list was read from a value. -/
theorem exists_of_mem_list? {α : Type} {item? : Json → Option α} {value : Json} {items : List α}
    (read : list? item? value = some items) {a : α} (inside : a ∈ items) :
    ∃ item, item? item = some a := by
  cases value with
  | array values =>
      change values.mapM item? = some items at read
      induction values generalizing items with
      | nil =>
          obtain rfl : [] = items := by simpa using read
          cases inside
      | cons item values ih =>
          simp only [List.mapM_cons, Option.bind_eq_bind, Option.bind_eq_some_iff] at read
          obtain ⟨first, isFirst, rest, isRest, whole⟩ := read
          obtain rfl := Option.some.inj whole
          rcases List.mem_cons.mp inside with rfl | later
          · exact ⟨item, isFirst⟩
          · exact ih later isRest
  | _ => cases read

/-- An object of named fields has these fields. -/
theorem members?_map (fields : Fields) :
    members? (fields.map fun (name, value) => (some name, value)) = some fields := by
  induction fields with
  | nil => rfl
  | cons field fields ih =>
      unfold members? at ih ⊢
      simp [List.mapM_cons, ih]

/-- A record written as an object has its fields, when no known name comes twice. -/
theorem record?_ofFields (names : List String) (fields : Fields)
    (once : noneTwice names fields = true) : (ofFields fields).record? names = some fields := by
  simp [ofFields, record?, members?_map, once]

/-- An object of named fields is sound when their values are. -/
theorem isSound_ofFields {fields : Fields} (sound : ∀ field ∈ fields, field.2.isSound = true) :
    (ofFields fields).isSound = true := by
  rw [ofFields, isSound]
  induction fields with
  | nil => simp [soundMembers]
  | cons field fields ih =>
      rw [List.map_cons, soundMembers, sound field List.mem_cons_self,
        ih fun other inside => sound other (List.mem_cons_of_mem field inside)]
      rfl

/-- An object of named fields nests one level deeper than their values at most. -/
theorem depth_ofFields_le {fields : Fields} {bound : Nat}
    (shallow : ∀ field ∈ fields, field.2.depth ≤ bound) : (ofFields fields).depth ≤ bound + 1 := by
  rw [ofFields, depth, Nat.add_le_add_iff_right]
  induction fields with
  | nil => simp [depthMembers]
  | cons field fields ih =>
      rw [List.map_cons, depthMembers]
      exact max_le (shallow field List.mem_cons_self)
        (ih fun other inside => shallow other (List.mem_cons_of_mem field inside))

/-! ## Fields in any order -/

/-- A field's value is the one of the first member of its name. -/
theorem lookup_eq_head? (fields : Fields) (name : String) :
    fields.lookup name = (fields.filter fun field => field.1 == name).head?.map Prod.snd := by
  induction fields with
  | nil => rfl
  | cons field fields ih =>
      obtain ⟨other, value⟩ := field
      rw [List.lookup_cons, List.filter_cons]
      by_cases same : name = other
      · simp [same]
      · have differs : (other == name) = false := beq_false_of_ne (Ne.symm same)
        have misses : (name == other) = false := beq_false_of_ne same
        simp [differs, misses, ih]

theorem noneTwice_perm {fields others : Fields} (perm : fields.Perm others)
    (names : List String) : noneTwice names fields = noneTwice names others := by
  unfold noneTwice
  congr 1
  funext name
  rw [(perm.filter fun field => field.1 == name).length_eq]

/-- A field that does not come twice is found whatever the order. -/
theorem lookup_perm {names : List String} {fields others : Fields} (perm : fields.Perm others)
    (once : noneTwice names fields = true) {name : String} (known : name ∈ names) :
    fields.lookup name = others.lookup name := by
  have atMostOne := List.all_eq_true.mp once name known
  have same := perm.filter fun field => field.1 == name
  rw [lookup_eq_head?, lookup_eq_head?]
  cases found : fields.filter fun field => field.1 == name with
  | nil =>
      rw [found] at same
      rw [same.nil_eq]
  | cons field rest =>
      obtain rfl : rest = [] := by simpa [found] using atMostOne
      rw [found] at same
      rw [same.singleton_eq]

/-- Fields of other names do not hide a field. -/
theorem lookup_eq_none_of_unknown {names : List String} {fields : Fields}
    (unknown : ∀ field ∈ fields, field.1 ∉ names) {name : String} (known : name ∈ names) :
    fields.lookup name = none := by
  rw [List.lookup_eq_none_iff]
  intro field inside
  exact bne_iff_ne.mpr fun same => unknown field inside (same ▸ known)

theorem noneTwice_append_unknown {names : List String} {fields others : Fields}
    (unknown : ∀ field ∈ others, field.1 ∉ names) :
    noneTwice names (fields ++ others) = noneTwice names fields := by
  rw [Bool.eq_iff_iff, noneTwice, noneTwice, List.all_eq_true, List.all_eq_true]
  refine forall₂_congr fun name known => ?_
  have none : others.filter (fun field => field.1 == name) = [] := by
    rw [List.filter_eq_nil_iff]
    intro field inside same
    exact unknown field inside (eq_of_beq same ▸ known)
  rw [List.filter_append, none, List.append_nil]

/-! ## Plain values -/

theorem ofNat_plain (n : Nat) : (ofNat n).Plain := by
  rw [ofNat, Plain]
  exact ⟨n, rfl⟩

theorem ofText_plain (text : String) : (ofText text).Plain := by simp [ofText, Plain]

theorem array_plain {items : List Json} (plain : ∀ item ∈ items, item.Plain) :
    (array items).Plain := by
  rw [Plain]
  induction items with
  | nil => rw [PlainItems]; exact trivial
  | cons item items ih =>
      rw [PlainItems]
      exact ⟨plain item (by simp), ih fun other inside => plain other (by simp [inside])⟩

theorem ofFields_plain {fields : Fields} (plain : ∀ field ∈ fields, field.2.Plain) :
    (ofFields fields).Plain := by
  rw [ofFields, Plain]
  induction fields with
  | nil => rw [List.map_nil, PlainMembers]; exact trivial
  | cons field fields ih =>
      rw [List.map_cons, PlainMembers]
      exact ⟨plain field (by simp), ih fun other inside => plain other (by simp [inside])⟩

end Crochet.Json
