import Conveyor.Json.Decoding

/-! Reading back what was written, field by field. A field that is absent is left out of an object, and so is
an empty list; a key that is found has what was listed for it, as no key is listed twice. The one thing that
is not written as itself is a float that is not finite: it becomes null, and null is refused where a number
is read. What has such a float in it is therefore refused as a whole, by the same error wherever it is. -/
namespace Conveyor

namespace Decoding

/-- What comes of reading something that was written: the same thing, unless a float in it was written as
null. -/
def readBack {α : Type} (finite : Bool) (value : α) : Result α :=
  if finite then .ok value else .error (.invalidType .null "f64")

section ReadBack

variable {α β : Type}

theorem readBack_map (f : α → β) (finite : Bool) (value : α) :
    (readBack finite value).map f = readBack finite (f value) := by
  cases finite <;> rfl

theorem readBack_bind {finite finite' : Bool} {value : α} {next : α → Result β} {result : β}
    (rest : next value = readBack finite' result) :
    (readBack finite value >>= next) = readBack (finite && finite') result := by
  cases finite with
  | false => rfl
  | true => exact rest

theorem list_readBack {write : α → Json} {read : Json → Result α} {finite : α → Bool}
    (each : ∀ item, read (write item) = readBack (finite item) item) (items : List α) :
    list read (.array (items.map write)) = readBack (items.all finite) items := by
  change (items.map write).mapM read = _
  induction items with
  | nil => rfl
  | cons item rest ih =>
    rw [List.map_cons, List.mapM_cons, each, List.all_cons, ih]
    exact readBack_bind (readBack_map (item :: ·) _ rest)

theorem optional_readBack {write : α → Json} {read : Json → Result α} {finite : α → Bool} {value : α}
    (shown : write value ≠ .null) (each : read (write value) = readBack (finite value) value) :
    optional read (write value) = readBack (finite value) (some value) := by
  unfold optional
  split
  · contradiction
  · rw [each, readBack_map]

/-- A field of something that may be absent. -/
theorem field?_optional (write : α → Json) {read : Json → Result α} {finite : α → Bool}
    (shown : ∀ value, write value ≠ .null)
    (each : ∀ value, read (write value) = readBack (finite value) value)
    {entries : List (String × Json)} {key : String} {value? : Option α}
    (found : Table.find key entries = value?.map write) :
    field? entries key (optional read) = readBack (value?.all finite) (value?.map some) := by
  rw [field?, found]
  cases value? with
  | none => rfl
  | some value =>
    change (optional read (write value)).map some = _
    rw [optional_readBack (shown value) (each value), readBack_map]
    rfl

/-- A field of something that may be absent, whose reader takes what is written for what it is. -/
theorem field?_maybe (write : α → Json) {read : Json → Result (Option α)}
    (each : ∀ value, read (write value) = .ok (some value))
    {entries : List (String × Json)} {key : String} {value? : Option α}
    (found : Table.find key entries = value?.map write) :
    field? entries key read = .ok (value?.map some) := by
  rw [field?, found]
  cases value? with
  | none => rfl
  | some value =>
    change (read (write value)).map some = _
    rw [each]
    rfl

/-- A field of something that may be absent and has no floats. -/
theorem field?_optional_ok (write : α → Json) {read : Json → Result α}
    (shown : ∀ value, write value ≠ .null) (each : ∀ value, read (write value) = .ok value)
    {entries : List (String × Json)} {key : String} {value? : Option α}
    (found : Table.find key entries = value?.map write) :
    field? entries key (optional read) = .ok (value?.map some) := by
  refine field?_maybe write (fun value => ?_) found
  unfold optional
  split
  · exact absurd (by assumption) (shown value)
  · rw [each]
    rfl

/-- A field of a list that is left out if the list is empty. -/
theorem field?_list {write : α → Json} {read : Json → Result α} {finite : α → Bool}
    (each : ∀ value, read (write value) = readBack (finite value) value)
    {entries : List (String × Json)} {key : String} {items : List α}
    (found : Table.find key entries =
      if items.isEmpty then none else some (.array (items.map write))) :
    field? entries key (list read) =
      readBack (items.all finite) (if items.isEmpty then none else some items) := by
  rw [field?, found]
  cases items with
  | nil => rfl
  | cons item rest =>
    change (list read (.array ((item :: rest).map write))).map some = _
    rw [list_readBack each, readBack_map]
    rfl

/-- A field that is always there. -/
theorem field?_always {write : α → Json} {read : Json → Result α} {finite : α → Bool} {value : α}
    (each : read (write value) = readBack (finite value) value)
    {entries : List (String × Json)} {key : String}
    (found : Table.find key entries = some (write value)) :
    field? entries key read = readBack (finite value) (some value) := by
  rw [field?, found]
  dsimp only
  rw [each, readBack_map]

end ReadBack

/-- A list of things without floats. -/
theorem list_ok {α : Type} {write : α → Json} {read : Json → Result α}
    (each : ∀ item, read (write item) = .ok item) (items : List α) :
    list read (.array (items.map write)) = .ok items := by
  have back : ∀ item, read (write item) = readBack ((fun _ => true) item) item := each
  rw [list_readBack back, List.all_eq_true.mpr fun _ _ => rfl]
  rfl

theorem int64_toInt (value : Int64) : int64 (.int value.toInt) = .ok value := by
  have least := Int64.minValue_le_toInt value
  have greatest := value.toInt_le
  rw [int64, intWithin, if_pos ⟨by simpa using least, by simpa using greatest⟩]
  simp [Except.map]

theorem uint32_toNat (value : UInt32) : uint32 (.int value.toNat) = .ok value := by
  have bound := value.toNat_lt
  rw [uint32, intWithin, if_pos ⟨by omega, by simp [UInt32.size]; omega⟩]
  simp [Except.map]

end Decoding

/-- In an object of fields with different keys, a key has what was listed for it. -/
theorem find_ofFields {fields : List (String × Option Json)} (distinct : (fields.map Prod.fst).Nodup)
    (key : String) :
    Table.find key (fields.filterMap fun field => field.2.map (field.1, ·)) =
      (fields.lookup key).join := by
  induction fields with
  | nil => rfl
  | cons field rest ih =>
    obtain ⟨name, content?⟩ := field
    obtain ⟨apart, others⟩ := List.nodup_cons.mp distinct
    have later := ih others
    by_cases same : key = name
    · subst same
      rw [List.lookup_cons_self]
      cases content? with
      | none =>
        have absent : rest.lookup key = none := by
          refine List.lookup_eq_none_iff.mpr fun other member => bne_iff_ne.mpr fun same => apart ?_
          exact List.mem_map.mpr ⟨other, member, same.symm⟩
        rw [absent] at later
        exact later
      | some content => simp [Table.find]
    · rw [List.lookup_cons, beq_false_of_ne same, ← later]
      cases content? with
      | none => rfl
      | some content => simp [Table.find, Ne.symm same]

/-- What is read back as one thing only is written for one thing only. -/
theorem eq_of_toDocument_eq {α : Type} [ToDocument α] [OfDocument α] {finite : α → Bool}
    (read : ∀ value : α, ofDocument (toDocument value) = Decoding.readBack (finite value) value)
    {value other : α} (good : finite value = true) (same : toDocument value = toDocument other) :
    value = other := by
  have back := read other
  rw [← same, read value, good] at back
  cases other' : finite other with
  | false =>
    rw [other'] at back
    cases back
  | true =>
    rw [other'] at back
    exact Except.ok.inj back

end Conveyor
