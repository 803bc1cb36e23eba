import DateAdjust.Proofs.Spec.RoundTrip
import DateAdjust.Proofs.Stored.TimeForms
import DateAdjust.Proofs.Timestamp.RoundTrip

/-! Stored forms against the values they stand for. The forms that a value is read from are
described apart from the readers, so nothing is read that could not have been built. -/

namespace DateAdjust

theorem StoredValue.text_eq_ok_iff {stored : StoredValue} {text : String} :
    stored.text = .ok text ↔ stored = .string text := by
  constructor
  · intro succeeds
    cases stored with
    | string value =>
        cases succeeds
        rfl
    | null | boolean | integer | fraction | array | object => cases succeeds
  · rintro rfl
    rfl

theorem Strictness.ofName_eq_ok_iff {name : String} {strictness : Strictness} :
    ofName name = .ok strictness ↔ name = strictness.name := by
  constructor
  · intro succeeds
    rw [ofName] at succeeds
    split at succeeds
    next isLenient =>
      cases succeeds
      exact isLenient
    next =>
      split at succeeds
      next isStrict =>
        cases succeeds
        exact isStrict
      next => cases succeeds
  · rintro rfl
    cases strictness <;> rfl

namespace Stored

theorem decode_number_eq_ok_iff {least greatest limit : Nat} (fits : greatest ≤ limit)
    {field : Field} {stored : StoredValue} {number : Bounded least greatest} :
    (stored.natural limit >>= fun value =>
        StoredError.rejecting FieldError.message (Bounded.check field value)) = .ok number ↔
      stored = .integer number.val := by
  rw [Result.bind_eq_ok_iff]
  constructor
  · rintro ⟨value, isNatural, checked⟩
    obtain ⟨rfl, _⟩ := StoredValue.natural_eq_ok_iff.mp isNatural
    have same := Bounded.check_eq_ok_iff.mp (Result.mapError_eq_ok_iff.mp checked)
    exact congrArg _ same.symm
  · rintro rfl
    exact ⟨number.val,
      StoredValue.natural_eq_ok_iff.mpr ⟨rfl, Nat.le_trans number.le_greatest fits⟩,
      Result.mapError_eq_ok_iff.mpr (Bounded.check_val field number)⟩

theorem decode_text_eq_ok_iff {α ε : Type} {read : String → Except ε α} {message : ε → String}
    {stored : StoredValue} {value : α} :
    (stored.text >>= fun text => StoredError.rejecting message (read text)) = .ok value ↔
      ∃ text, stored = .string text ∧ read text = .ok value := by
  rw [Result.bind_eq_ok_iff]
  constructor
  · rintro ⟨text, isText, succeeds⟩
    exact ⟨text, StoredValue.text_eq_ok_iff.mp isText, Result.mapError_eq_ok_iff.mp succeeds⟩
  · rintro ⟨text, rfl, succeeds⟩
    exact ⟨text, rfl, Result.mapError_eq_ok_iff.mpr succeeds⟩

theorem decode_time_eq_ok_iff {stored : StoredValue} {time : TimeOfDay} :
    decode stored = .ok time ↔ TimeForm time.number stored := by
  constructor
  · intro succeeds
    obtain ⟨numbers, found, checked⟩ := Result.bind_eq_ok_iff.mp succeeds
    obtain rfl := TimeOfDay.check_eq_ok_iff.mp (Result.mapError_eq_ok_iff.mp checked)
    exact StoredValue.timeNumbers_eq_ok_iff.mp found
  · intro isForm
    rw [isForm.decode, TimeOfDay.check_eq_ok_iff.mpr rfl]
    rfl

theorem decode_strictness_eq_ok_iff {stored : StoredValue} {strictness : Strictness} :
    decode stored = .ok strictness ↔
      stored = .string strictness.name ∨ stored = .object [(strictness.name, .null)] := by
  constructor
  · intro succeeds
    cases stored with
    | string name =>
        obtain rfl := Strictness.ofName_eq_ok_iff.mp succeeds
        exact .inl rfl
    | object fields =>
        match fields with
        | [(name, content)] =>
            obtain ⟨named, isName, succeeds⟩ := Result.bind_eq_ok_iff.mp succeeds
            cases content with
            | null =>
                cases succeeds
                obtain rfl := Strictness.ofName_eq_ok_iff.mp isName
                exact .inr rfl
            | boolean | integer | fraction | string | array | object => cases succeeds
        | [] => cases succeeds
        | _ :: _ :: _ => cases succeeds
    | null | boolean | integer | fraction | array => cases succeeds
  · rintro (rfl | rfl)
    · exact Strictness.ofName_eq_ok_iff.mpr rfl
    · exact Result.bind_eq_ok_iff.mpr ⟨strictness, Strictness.ofName_eq_ok_iff.mpr rfl, rfl⟩

section Faithful

variable (α : Type) [Stored α] (Spells : α → StoredValue → Prop) (Valid : α → Prop)

/-- Values are read from the forms that spell them and from no others, what was read is valid, and
the form that it is written in reads back to it and is what it is then written as. -/
structure Faithful : Prop where
  decode_eq_ok_iff (stored : StoredValue) (value : α) :
    decode stored = .ok value ↔ Spells value stored
  valid (stored : StoredValue) (value : α) : decode stored = .ok value → Valid value
  stable (stored written : StoredValue) (value : α) : decode stored = .ok value →
    encode value = written → ∃ again : α, decode written = .ok again ∧ again = value ∧
      encode again = written

/-- All values are read back from what they are written as, also those that were not read. -/
structure Complete : Prop extends Faithful α Spells Valid where
  decode_encode (value : α) : decode (encode value) = .ok value

variable {α Spells Valid}

theorem Faithful.of_spells
    (reads : ∀ (stored : StoredValue) (value : α), decode stored = .ok value ↔ Spells value stored)
    (valid : ∀ (stored : StoredValue) (value : α), Spells value stored → Valid value)
    (writes : ∀ value : α, Valid value → Spells value (encode value)) :
    Faithful α Spells Valid where
  decode_eq_ok_iff := reads
  valid stored value succeeds := valid stored value ((reads stored value).mp succeeds)
  stable := by
    rintro stored _ value succeeds rfl
    have spelled := writes value (valid stored value ((reads stored value).mp succeeds))
    exact ⟨value, (reads _ value).mpr spelled, rfl, rfl⟩

theorem Complete.of_spells
    (reads : ∀ (stored : StoredValue) (value : α), decode stored = .ok value ↔ Spells value stored)
    (valid : ∀ value : α, Valid value) (writes : ∀ value : α, Spells value (encode value)) :
    Complete α Spells Valid where
  toFaithful := .of_spells reads (fun _ value _ => valid value) (fun value _ => writes value)
  decode_encode value := (reads _ value).mpr (writes value)

end Faithful

/-- What every type is read from, and that no value is lost or changed when it is written and read
again, but for a timestamp with a day past the end of its month. A time of day has one outcome in
all of its forms, down to the number that is reported. -/
theorem decode_faithful :
    Complete Year (fun year stored => stored = .integer year.val)
      (fun year => 1 ≤ year.val ∧ year.val ≤ 9999) ∧
    Complete Month (fun month stored => stored = .integer month.val)
      (fun month => 1 ≤ month.val ∧ month.val ≤ 12) ∧
    Complete Day (fun day stored => stored = .integer day.val)
      (fun day => 1 ≤ day.val ∧ day.val ≤ 31) ∧
    Complete TimeOfDay (fun time => TimeForm time.number)
      (fun time => time.hour.val ≤ 23 ∧ time.minute.val ≤ 59 ∧ time.second.val ≤ 59 ∧
        time.millisecond.val ≤ 999) ∧
    Complete Spec
      (fun spec stored => ∃ text, stored = .string text ∧ Spec.ofString text .strict = .ok spec)
      (fun _ => True) ∧
    Complete Strictness
      (fun strictness stored =>
        stored = .string strictness.name ∨ stored = .object [(strictness.name, .null)])
      (fun _ => True) ∧
    Faithful Timestamp
      (fun timestamp stored =>
        ∃ text, stored = .string text ∧ Timestamp.ofString text = .ok timestamp)
      Timestamp.Valid ∧
    (∀ timestamp : Timestamp,
      timestamp.day.val ≤ monthLength timestamp.year.val timestamp.month.val →
      decode (encode timestamp) = .ok timestamp) ∧
    ∀ (numbers : TimeKey → Nat) (fields extra : List (String × StoredValue)),
      (∀ key, numbers key ≤ key.limit) →
      fields.Perm (TimeKey.fieldsOf numbers ++ extra) →
      (∀ field ∈ extra, ∀ key : TimeKey, field.1 ≠ key.name) →
      let outcome := StoredError.rejecting FieldError.message (TimeOfDay.check (numbers .hour)
        (numbers .minute) (numbers .second) (numbers .millisecond))
      decode (.object fields) = outcome ∧
        decode (.array (TimeKey.all.map fun key => .integer (numbers key))) = outcome := by
  refine ⟨?_, ?_, ?_, ?_, ?_, ?_, ?_, ?_, ?_⟩
  · exact .of_spells (fun _ _ => decode_number_eq_ok_iff (by decide))
      (fun year => ⟨year.least_le, year.le_greatest⟩) (fun _ => rfl)
  · exact .of_spells (fun _ _ => decode_number_eq_ok_iff (by decide))
      (fun month => ⟨month.least_le, month.le_greatest⟩) (fun _ => rfl)
  · exact .of_spells (fun _ _ => decode_number_eq_ok_iff (by decide))
      (fun day => ⟨day.least_le, day.le_greatest⟩) (fun _ => rfl)
  · refine .of_spells (fun _ _ => decode_time_eq_ok_iff) ?_ ?_
    · exact fun time => ⟨time.hour.le_greatest, time.minute.le_greatest,
        time.second.le_greatest, time.millisecond.le_greatest⟩
    · exact fun time => .object fun key =>
        ⟨time.number_le_limit key, key.under_fieldsOf time.number⟩
  · exact .of_spells (fun _ _ => decode_text_eq_ok_iff) (fun _ => trivial)
      (fun spec => ⟨toString spec, rfl, (Spec.spaced_toString spec.tokens).read .strict⟩)
  · exact .of_spells (fun _ _ => decode_strictness_eq_ok_iff) (fun _ => trivial)
      (fun _ => .inl rfl)
  · refine .of_spells (fun _ _ => decode_text_eq_ok_iff) ?_ ?_
    · rintro stored timestamp ⟨text, rfl, built⟩
      exact Timestamp.valid_of_ofString built
    · exact fun timestamp valid => ⟨toString timestamp, rfl, valid.ofString_text⟩
  · intro timestamp fits
    have valid : timestamp.Valid :=
      ⟨timestamp.month.least_le, timestamp.month.le_greatest, timestamp.day.least_le, fits⟩
    exact decode_text_eq_ok_iff.mpr ⟨toString timestamp, rfl, valid.ofString_text⟩
  · intro numbers fields extra fit shuffled unknown
    have isObject : TimeForm numbers (.object fields) :=
      .object fun key => ⟨fit key, TimeKey.under_of_perm shuffled unknown key⟩
    have isArray := TimeForm.array fit
    exact ⟨isObject.decode, isArray.decode⟩

theorem decode_faithful_minute60 :
    let numbers := TimeKey.select 23 60 61 0
    let extra : List (String × StoredValue) := [("zone", .null)]
    let fields : List (String × StoredValue) :=
      [("zone", .null), ("millisecond", .integer 0), ("second", .integer 61),
        ("minute", .integer 60), ("hour", .integer 23)]
    let refused : Except StoredError TimeOfDay :=
      .error (.rejected "Invalid minute: 60 (must be 0-59)")
    ((∀ key, numbers key ≤ key.limit) ∧
      fields.Perm (TimeKey.fieldsOf numbers ++ extra) ∧
      (∀ field ∈ extra, ∀ key : TimeKey, field.1 ≠ key.name) ∧
      decode (.object fields) = refused ∧
      decode (.array [.integer 23, .integer 60, .integer 61, .integer 0]) = refused) ∧
    (decode (.object [("strict", .null)]) = .ok Strictness.strict ∧
      ∃ again : Strictness, decode (.string "strict") = .ok again ∧ again = .strict ∧
        encode again = .string "strict") ∧
    Timestamp.march31.day.val ≤ monthLength 2011 3 ∧
      decode (encode Timestamp.march31) = .ok Timestamp.march31 := by
  intro numbers extra fields refused
  have fit : ∀ key, numbers key ≤ key.limit := by
    intro key
    cases key <;> decide
  have reversed : (TimeKey.fieldsOf numbers ++ extra).reverse = fields := rfl
  have shuffled : fields.Perm (TimeKey.fieldsOf numbers ++ extra) :=
    reversed ▸ List.reverse_perm _
  have unknown : ∀ field ∈ extra, ∀ key : TimeKey, field.1 ≠ key.name := by
    intro field member key
    rw [List.mem_singleton.mp member]
    cases key <;> decide
  have checked :
      StoredError.rejecting FieldError.message (TimeOfDay.check 23 60 61 0) = refused := by
    decide +kernel
  have byName : decode (.object [("strict", .null)]) = .ok Strictness.strict := rfl
  obtain ⟨-, -, -, -, -, strictness, -, timestamp, time⟩ := decode_faithful
  obtain ⟨object, array⟩ := time numbers fields extra fit shuffled unknown
  exact ⟨⟨fit, shuffled, unknown, object.trans checked, array.trans checked⟩,
    ⟨byName, strictness.stable _ _ _ byName rfl⟩,
    by decide, timestamp _ (by decide)⟩

end Stored

end DateAdjust
