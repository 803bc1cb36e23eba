import DateAdjust.Proofs.Result
import DateAdjust.Stored
import Mathlib.Data.List.Forall2

/-! The stored forms of a time of day. An object is read field by field, and what is found depends
on what stands under each key, not on where it stands. -/

namespace DateAdjust

namespace StoredValue

theorem natural_eq_ok_iff {limit number : Nat} {stored : StoredValue} :
    stored.natural limit = .ok number ↔ stored = .integer number ∧ number ≤ limit := by
  constructor
  · intro succeeds
    cases stored with
    | integer value =>
        rw [natural] at succeeds
        split at succeeds
        next inside =>
          cases succeeds
          exact ⟨congrArg _ (Int.toNat_of_nonneg inside.1).symm, by omega⟩
        next outside => split at succeeds <;> cases succeeds
    | null | boolean | fraction | string | array | object => cases succeeds
  · rintro ⟨rfl, fits⟩
    exact if_pos ⟨Int.natCast_nonneg number, Int.ofNat_le.mpr fits⟩

theorem naturals_eq_ok_iff {limits numbers : List Nat} {items : List StoredValue} :
    naturals limits items = .ok numbers ↔
      items = numbers.map (fun number => .integer number) ∧
        List.Forall₂ (· ≤ ·) numbers limits := by
  induction limits, items using naturals.induct generalizing numbers with
  | case1 =>
      constructor
      · intro succeeds
        cases succeeds
        exact ⟨rfl, .nil⟩
      · rintro ⟨_, ⟨⟩⟩
        rfl
  | case2 limit limits item items ih =>
      constructor
      · intro succeeds
        obtain ⟨number, isNumber, succeeds⟩ := Result.bind_eq_ok_iff.mp succeeds
        obtain ⟨later, areNumbers, succeeds⟩ := Result.bind_eq_ok_iff.mp succeeds
        cases succeeds
        obtain ⟨rfl, fits⟩ := natural_eq_ok_iff.mp isNumber
        obtain ⟨rfl, fit⟩ := ih.mp areNumbers
        exact ⟨rfl, .cons fits fit⟩
      · rintro ⟨same, all⟩
        cases all with
        | @cons number _ later _ fits fit =>
            obtain ⟨rfl, rfl⟩ := List.cons.inj same
            exact Result.bind_eq_ok_iff.mpr ⟨number, natural_eq_ok_iff.mpr ⟨rfl, fits⟩,
              Result.bind_eq_ok_iff.mpr ⟨later, ih.mpr ⟨rfl, fit⟩, rfl⟩⟩
  | case3 limits items notEmpty notCons =>
      constructor
      · intro succeeds
        rw [naturals] at succeeds
        cases succeeds
        all_goals assumption
      · rintro ⟨rfl, all⟩
        cases all with
        | nil => exact (notEmpty rfl rfl).elim
        | cons => exact (notCons _ _ _ _ rfl rfl).elim

end StoredValue

namespace TimeKey

theorem ofName?_eq_some_iff {name : String} {key : TimeKey} :
    ofName? name = some key ↔ name = key.name := by
  constructor
  · intro found
    have same := List.find?_some found
    exact (of_decide_eq_true same).symm
  · rintro rfl
    cases key <;> rfl

theorem ofName?_eq_none_iff {name : String} :
    ofName? name = none ↔ ∀ key : TimeKey, name ≠ key.name := by
  rw [Option.eq_none_iff_forall_ne_some]
  exact forall_congr' fun key => not_congr ofName?_eq_some_iff

theorem name_injective : Function.Injective name := by
  intro key other same
  have found : ofName? key.name = some other := ofName?_eq_some_iff.mpr same
  rw [ofName?_eq_some_iff.mpr rfl] at found
  exact Option.some.inj found

def under (key : TimeKey) (fields : List (String × StoredValue)) :
    List (String × StoredValue) :=
  fields.filter fun field => field.1 = key.name

theorem under_append (key : TimeKey) (front back : List (String × StoredValue)) :
    key.under (front ++ back) = key.under front ++ key.under back :=
  List.filter_append ..

/-- What going through an object does to the number of a key: none stands under the key, or there is
one and none was known before. -/
inductive Collects (key : TimeKey) (fields : List (String × StoredValue)) :
    Option Nat → Option Nat → Prop
  | absent {before : Option Nat} : key.under fields = [] → Collects key fields before before
  | once {number : Nat} : key.under fields = [(key.name, .integer number)] →
      number ≤ key.limit → Collects key fields none (some number)

section Collecting

variable {key : TimeKey} {value : StoredValue} {fields : List (String × StoredValue)}
  {before after : Option Nat}

theorem collects_nil : Collects key [] before after ↔ before = after := by
  constructor
  · rintro (_ | ⟨there, _⟩)
    · rfl
    · cases there
  · rintro rfl
    exact .absent rfl

theorem collects_cons_of_ne {name : String} (different : name ≠ key.name) :
    Collects key ((name, value) :: fields) before after ↔ Collects key fields before after := by
  have same : key.under ((name, value) :: fields) = key.under fields :=
    List.filter_cons_of_neg (by simpa using different)
  constructor
  · rintro (nowhere | ⟨there, fits⟩)
    · exact .absent (same ▸ nowhere)
    · exact .once (same ▸ there) fits
  · rintro (nowhere | ⟨there, fits⟩)
    · exact .absent (same.trans nowhere)
    · exact .once (same.trans there) fits

theorem collects_cons_self :
    Collects key ((key.name, value) :: fields) before after ↔ before = none ∧
      ∃ number, value.natural key.limit = .ok number ∧
        Collects key fields (some number) after := by
  have both : key.under ((key.name, value) :: fields) = (key.name, value) :: key.under fields :=
    List.filter_cons_of_pos (by simp)
  constructor
  · rintro (nowhere | ⟨there, fits⟩)
    · rw [both] at nowhere
      cases nowhere
    · rw [both] at there
      obtain ⟨same, nowhere⟩ := List.cons.inj there
      cases same
      exact ⟨rfl, _, StoredValue.natural_eq_ok_iff.mpr ⟨rfl, fits⟩, .absent nowhere⟩
  · rintro ⟨rfl, number, isNumber, collects⟩
    obtain ⟨rfl, fits⟩ := StoredValue.natural_eq_ok_iff.mp isNumber
    cases collects with
    | absent nowhere => exact .once (both.trans (congrArg _ nowhere)) fits

theorem forall_collects_cons {found after : TimeKey → Option Nat} (missing : found key = none) :
    (∀ other, Collects other ((key.name, value) :: fields) (found other) (after other)) ↔
      ∃ number, value.natural key.limit = .ok number ∧
        ∀ other, Collects other fields (if other = key then some number else found other)
          (after other) := by
  have elsewhere : ∀ {other}, other ≠ key → key.name ≠ other.name :=
    fun different => name_injective.ne different.symm
  constructor
  · intro collects
    obtain ⟨_, number, isNumber, there⟩ := collects_cons_self.mp (collects key)
    refine ⟨number, isNumber, fun other => ?_⟩
    split
    next same => exact same ▸ there
    next different => exact (collects_cons_of_ne (elsewhere different)).mp (collects other)
  · rintro ⟨number, isNumber, collects⟩ other
    have there := collects other
    split at there
    next same =>
      subst same
      exact collects_cons_self.mpr ⟨missing, number, isNumber, there⟩
    next different => exact (collects_cons_of_ne (elsewhere different)).mpr there

end Collecting

section Steps

variable {found : TimeKey → Option Nat} {key : TimeKey} (value : StoredValue)
  (fields : List (String × StoredValue))

theorem collectTime_cons_of_unknown {name : String} (unknown : ofName? name = none) :
    StoredValue.collectTime found ((name, value) :: fields) =
      StoredValue.collectTime found fields := by
  rw [StoredValue.collectTime, unknown]

theorem collectTime_cons_of_some {number : Nat} (known : found key = some number) :
    StoredValue.collectTime found ((key.name, value) :: fields) = .error .duplicateField := by
  rw [StoredValue.collectTime, ofName?_eq_some_iff.mpr rfl]
  exact if_pos (known ▸ rfl)

theorem collectTime_cons_of_none (missing : found key = none) :
    StoredValue.collectTime found ((key.name, value) :: fields) =
      value.natural key.limit >>= fun number =>
        StoredValue.collectTime (fun other => if other = key then some number else found other)
          fields := by
  rw [StoredValue.collectTime, ofName?_eq_some_iff.mpr rfl]
  exact if_neg (by simp [missing])

end Steps

theorem collectTime_eq_ok_iff {fields : List (String × StoredValue)}
    {found after : TimeKey → Option Nat} :
    StoredValue.collectTime found fields = .ok after ↔
      ∀ key, Collects key fields (found key) (after key) := by
  induction fields generalizing found with
  | nil =>
      simp only [StoredValue.collectTime, collects_nil, Except.ok.injEq]
      exact funext_iff
  | cons field fields ih =>
      obtain ⟨name, value⟩ := field
      cases named : ofName? name with
      | none =>
          have other := ofName?_eq_none_iff.mp named
          rw [collectTime_cons_of_unknown value fields named, ih]
          exact forall_congr' fun key => (collects_cons_of_ne (other key)).symm
      | some key =>
          obtain rfl := ofName?_eq_some_iff.mp named
          -- The number of a key is decided at its first field, and a second one is an error.
          cases before : found key with
          | some number =>
              rw [collectTime_cons_of_some value fields before]
              constructor
              · intro succeeds
                cases succeeds
              · intro collects
                obtain ⟨missing, _⟩ := collects_cons_self.mp (collects key)
                cases before.symm.trans missing
          | none =>
              rw [collectTime_cons_of_none value fields before, Result.bind_eq_ok_iff,
                forall_collects_cons before]
              exact exists_congr fun number => and_congr_right fun _ => ih

theorem collects_none_some {key : TimeKey} {fields : List (String × StoredValue)} {number : Nat} :
    Collects key fields none (some number) ↔
      number ≤ key.limit ∧ key.under fields = [(key.name, .integer number)] := by
  constructor
  · rintro (_ | ⟨there, fits⟩)
    exact ⟨fits, there⟩
  · rintro ⟨fits, there⟩
    exact .once there fits

theorem select_eq {α : Type} (values : TimeKey → α) :
    select (values hour) (values minute) (values second) (values millisecond) = values := by
  funext key
  cases key <;> rfl

def fieldsOf (numbers : TimeKey → Nat) : List (String × StoredValue) :=
  all.map fun key => (key.name, .integer (numbers key))

theorem under_fieldsOf (key : TimeKey) (numbers : TimeKey → Nat) :
    key.under (fieldsOf numbers) = [(key.name, .integer (numbers key))] := by
  cases key <;> rfl

theorem under_of_perm {numbers : TimeKey → Nat} {fields extra : List (String × StoredValue)}
    (shuffled : fields.Perm (TimeKey.fieldsOf numbers ++ extra))
    (unknown : ∀ field ∈ extra, ∀ key : TimeKey, field.1 ≠ key.name) (key : TimeKey) :
    key.under fields = [(key.name, .integer (numbers key))] := by
  have nowhere : key.under extra = [] := by
    refine List.filter_eq_nil_iff.mpr fun field member => ?_
    simpa using unknown field member key
  have perm : (key.under fields).Perm (key.under (TimeKey.fieldsOf numbers ++ extra)) :=
    shuffled.filter _
  rw [under_append, under_fieldsOf, nowhere] at perm
  exact List.perm_singleton.mp perm

end TimeKey

/-- The stored forms of a number for each key that fits there: an object that has each key once, in
any order and among fields of other names, or an array in the order of the keys. -/
inductive TimeForm (numbers : TimeKey → Nat) : StoredValue → Prop
  | object {fields : List (String × StoredValue)} :
      (∀ key : TimeKey, numbers key ≤ key.limit ∧
        key.under fields = [(key.name, .integer (numbers key))]) →
      TimeForm numbers (.object fields)
  | array : (∀ key, numbers key ≤ key.limit) →
      TimeForm numbers (.array (TimeKey.all.map fun key => .integer (numbers key)))

theorem StoredValue.timeNumbers_eq_ok_iff {stored : StoredValue} {numbers : TimeKey → Nat} :
    stored.timeNumbers = .ok numbers ↔ TimeForm numbers stored := by
  constructor
  · intro succeeds
    cases stored with
    | object fields =>
        obtain ⟨found, collected, succeeds⟩ := Result.bind_eq_ok_iff.mp succeeds
        have collects := TimeKey.collectTime_eq_ok_iff.mp collected
        split at succeeds
        next hour minute second millisecond foundHour foundMinute foundSecond foundMillisecond =>
          cases succeeds
          have isFound : ∀ key, found key =
              some (TimeKey.select hour minute second millisecond key) := by
            intro key
            cases key <;> assumption
          exact .object fun key => TimeKey.collects_none_some.mp (isFound key ▸ collects key)
        next => cases succeeds
    | array items =>
        obtain ⟨values, areNumbers, returned⟩ := Result.bind_eq_ok_iff.mp succeeds
        obtain ⟨rfl, fit⟩ := naturals_eq_ok_iff.mp areNumbers
        -- Four limits are met by four items.
        obtain _ | ⟨hour, _ | ⟨minute, _ | ⟨second, _ | ⟨millisecond, _ | _⟩⟩⟩⟩ := fit
        cases returned
        refine @TimeForm.array (TimeKey.select _ _ _ _) fun key => ?_
        cases key <;> assumption
    | null | boolean | integer | fraction | string => cases succeeds
  · intro isForm
    cases isForm with
    | object form =>
        refine Result.bind_eq_ok_iff.mpr ⟨fun key => some (numbers key), ?_, ?_⟩
        · exact TimeKey.collectTime_eq_ok_iff.mpr fun key =>
            TimeKey.collects_none_some.mpr (form key)
        · exact congrArg _ (TimeKey.select_eq numbers)
    | array fit =>
        refine Result.bind_eq_ok_iff.mpr ⟨TimeKey.all.map numbers, ?_, ?_⟩
        · exact naturals_eq_ok_iff.mpr ⟨rfl, .cons (fit .hour) (.cons (fit .minute)
            (.cons (fit .second) (.cons (fit .millisecond) .nil)))⟩
        · exact congrArg _ (TimeKey.select_eq numbers)

theorem TimeOfDay.check_eq_ok_iff {numbers : TimeKey → Nat} {time : TimeOfDay} :
    check (numbers .hour) (numbers .minute) (numbers .second) (numbers .millisecond) = .ok time ↔
      time.number = numbers := by
  constructor
  · intro succeeds
    obtain ⟨hour, isHour, succeeds⟩ := Result.bind_eq_ok_iff.mp succeeds
    obtain ⟨minute, isMinute, succeeds⟩ := Result.bind_eq_ok_iff.mp succeeds
    obtain ⟨second, isSecond, succeeds⟩ := Result.bind_eq_ok_iff.mp succeeds
    obtain ⟨millisecond, isMillisecond, succeeds⟩ := Result.bind_eq_ok_iff.mp succeeds
    cases succeeds
    funext key
    cases key with
    | hour => exact Int.ofNat.inj (Bounded.check_eq_ok_iff.mp isHour)
    | minute => exact Int.ofNat.inj (Bounded.check_eq_ok_iff.mp isMinute)
    | second => exact Int.ofNat.inj (Bounded.check_eq_ok_iff.mp isSecond)
    | millisecond => exact Int.ofNat.inj (Bounded.check_eq_ok_iff.mp isMillisecond)
  · rintro rfl
    simp only [check, number, TimeKey.select, Bounded.check_val]
    rfl

theorem TimeOfDay.number_le_limit (time : TimeOfDay) (key : TimeKey) :
    time.number key ≤ key.limit := by
  cases key with
  | hour => exact Nat.le_trans time.hour.le_greatest (by decide)
  | minute => exact Nat.le_trans time.minute.le_greatest (by decide)
  | second => exact Nat.le_trans time.second.le_greatest (by decide)
  | millisecond => exact Nat.le_trans time.millisecond.le_greatest (by decide)

theorem TimeForm.decode {numbers : TimeKey → Nat} {stored : StoredValue}
    (isForm : TimeForm numbers stored) :
    (Stored.decode stored : Except StoredError TimeOfDay) =
      StoredError.rejecting FieldError.message (TimeOfDay.check (numbers .hour)
        (numbers .minute) (numbers .second) (numbers .millisecond)) := by
  have found := StoredValue.timeNumbers_eq_ok_iff.mpr isForm
  change stored.timeNumbers >>= _ = _
  rw [found]
  rfl

end DateAdjust
