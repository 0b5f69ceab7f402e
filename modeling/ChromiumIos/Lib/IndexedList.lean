import Mathlib

/-!
# Signed positions in a list

Code that keeps a selected position beside a vector stores it in a signed
integer and uses a negative number for "no position".  The three shifts below
are the corrections such code applies to its position when an element is
inserted, erased or moved; each keeps the position on the element it was on.
-/

namespace ChromiumIos.Lib

variable {α β : Type*}

/-- The element at a signed position, if the position is inside the list. -/
def at? (list : List α) : Int → Option α
  | .ofNat position => list[position]?
  | .negSucc _ => none

@[simp]
theorem at?_natCast (list : List α) (position : Nat) :
    at? list (position : Int) = list[position]? := rfl

theorem at?_of_nonneg (list : List α) {position : Int} (nonneg : 0 ≤ position) :
    at? list position = list[position.toNat]? := by
  grind [at?]

theorem at?_of_neg (list : List α) {position : Int} (neg : position < 0) :
    at? list position = none := by
  cases position <;> grind [at?]

/-- A signed position is inside the list when its element exists. -/
theorem at?_isSome_iff (list : List α) (position : Int) :
    (at? list position).isSome ↔ 0 ≤ position ∧ position < list.length := by
  cases position <;> simp [at?, Int.negSucc_lt_zero, Int.not_le.mpr]

theorem at?_eq_none_iff (list : List α) (position : Int) :
    at? list position = none ↔ ¬ (0 ≤ position ∧ position < list.length) := by
  rw [← at?_isSome_iff, Option.not_isSome_iff_eq_none]

@[simp]
theorem at?_map (f : α → β) (list : List α) (position : Int) :
    at? (list.map f) position = (at? list position).map f := by
  cases position <;> simp [at?]

variable {value element : α}

theorem mem_of_at? {list : List α} {position : Int} (found : at? list position = some value) :
    value ∈ list := by
  cases position with
  | ofNat _ => exact List.mem_of_getElem? found
  | negSucc _ => cases found

/-- In a list without repetitions an element has one position. -/
theorem at?_inj {list : List α} (nodup : list.Nodup) {first second : Int}
    (atFirst : at? list first = some value) (atSecond : at? list second = some value) :
    first = second := by
  cases first with
  | negSucc _ => cases atFirst
  | ofNat n =>
    cases second with
    | negSucc _ => cases atSecond
    | ofNat _ =>
      have inRange : n < list.length := (List.getElem?_eq_some_iff.mp atFirst).1
      exact congrArg Int.ofNat
        ((List.getElem?_inj inRange nodup).mp (atFirst.trans atSecond.symm))

theorem at?_append_left {left right : List α} {position : Int}
    (before : position < left.length) : at? (left ++ right) position = at? left position := by
  cases position <;> grind [at?]

theorem at?_append_right (left right : List α) (position : Nat) :
    at? (left ++ right) (left.length + position) = right[position]? := by
  have cast : ((left.length : Int) + position) = ((left.length + position : Nat) : Int) := by omega
  rw [cast, at?_natCast, List.getElem?_append_right (Nat.le_add_right ..), Nat.add_sub_cancel_left]

def insertAt (list : List α) (position : Int) (value : α) : List α :=
  list.insertIdx position.toNat value

def eraseAt (list : List α) (position : Int) : List α :=
  list.eraseIdx position.toNat

def setAt (list : List α) (position : Int) (value : α) : List α :=
  list.set position.toNat value

def insertShift (index position : Int) : Int :=
  if position ≥ index then position + 1 else position

def eraseShift (index position : Int) : Int :=
  if position > index then position - 1 else position

/-- Where a position goes when the value at `source` is moved to `target`. -/
def moveShift (source target position : Int) : Int :=
  if position = source then target
  else if min source target ≤ position ∧ position ≤ max source target then
    position + (if source < target then -1 else 1)
  else position

theorem setAt_insertAt {list : List α} {index : Int} (first second : α)
    (nonneg : 0 ≤ index) (inside : index ≤ list.length) :
    setAt (insertAt list index first) index second = insertAt list index second := by
  obtain ⟨n, rfl⟩ := Int.eq_ofNat_of_zero_le nonneg
  simp only [setAt, insertAt, Int.toNat_natCast]
  have bound : n ≤ list.length := by omega
  induction n generalizing list with
  | zero => simp
  | succ _ _ =>
    cases list <;> grind

theorem insertAt_length (left right : List α) (value : α) :
    insertAt (left ++ right) left.length value = left ++ value :: right := by
  unfold insertAt
  rw [Int.toNat_natCast]
  induction left with
  | nil => rfl
  | cons _ _ ih =>
    simp [ih]

theorem setAt_self {list : List α} {index : Int} (taken : at? list index = some value) :
    setAt list index value = list := by
  have inside := (at?_isSome_iff list index).mp (by rw [taken]; rfl)
  grind [setAt, at?_of_nonneg, List.set_getElem_self]

/-! ## Lengths -/

theorem length_insertAt {list : List α} {index : Int} (value : α)
    (nonneg : 0 ≤ index) (inside : index ≤ list.length) :
    (insertAt list index value).length = list.length + 1 := by
  simp only [insertAt]
  grind

theorem length_eraseAt {list : List α} {index : Int}
    (nonneg : 0 ≤ index) (inside : index < list.length) :
    (eraseAt list index).length = list.length - 1 := by
  simp only [eraseAt]
  rw [List.length_eraseIdx_of_lt (by omega)]

@[simp]
theorem length_setAt (list : List α) (index : Int) (value : α) :
    (setAt list index value).length = list.length :=
  List.length_set

/-! ## Elements -/

theorem at?_insertAt_self {list : List α} {index : Int} (value : α)
    (nonneg : 0 ≤ index) (inside : index ≤ list.length) :
    at? (insertAt list index value) index = some value := by
  obtain ⟨n, rfl⟩ := Int.eq_ofNat_of_zero_le nonneg
  simp only [insertAt, at?_natCast, Int.toNat_natCast]
  grind

theorem at?_insertAt_insertShift {list : List α} {index : Int} (value : α)
    (nonneg : 0 ≤ index) (inside : index ≤ list.length) (position : Int) :
    at? (insertAt list index value) (insertShift index position) = at? list position := by
  simp only [insertShift]
  by_cases negative : position < 0
  · rw [if_neg (by omega), at?_of_neg _ negative, at?_of_neg _ negative]
  obtain ⟨p, rfl⟩ := Int.eq_ofNat_of_zero_le (Int.not_lt.mp negative)
  simp only [insertAt, Int.toNat_natCast]
  split_ifs with shifted
  · have cast : ((p : Int) + 1) = ((p + 1 : Nat) : Int) := by omega
    rw [cast, at?_natCast, at?_natCast, List.getElem?_insertIdx_of_gt (by omega)]
    simp
  · grind [at?_natCast]

theorem at?_eraseAt_eraseShift {list : List α} {index : Int} (nonneg : 0 ≤ index)
    {position : Int} (other : position ≠ index) :
    at? (eraseAt list index) (eraseShift index position) = at? list position := by
  simp only [eraseShift]
  by_cases negative : position < 0
  · rw [if_neg (by omega), at?_of_neg _ negative, at?_of_neg _ negative]
  obtain ⟨p, rfl⟩ := Int.eq_ofNat_of_zero_le (Int.not_lt.mp negative)
  simp only [eraseAt, Int.toNat_natCast]
  split_ifs with shifted
  · have cast : ((p : Int) - 1) = ((p - 1 : Nat) : Int) := by omega
    grind [at?_natCast]
  · grind [at?_natCast]

theorem at?_eraseAt_of_lt {list : List α} {index position : Int} (nonneg : 0 ≤ index)
    (before : position < index) : at? (eraseAt list index) position = at? list position := by
  have same := @at?_eraseAt_eraseShift _ list index nonneg position (Int.ne_of_lt before)
  rwa [eraseShift, if_neg (by omega)] at same

theorem at?_eraseAt_of_ge {list : List α} {index position : Int} (nonneg : 0 ≤ index)
    (after : index ≤ position) : at? (eraseAt list index) position = at? list (position + 1) := by
  have same := @at?_eraseAt_eraseShift _ list index nonneg (position + 1) (by omega)
  rwa [eraseShift, if_pos (by omega), Int.add_sub_cancel] at same

/-- Moving an element keeps every position on its element. -/
theorem at?_move_moveShift {list : List α} {source target : Int}
    (taken : at? list source = some value) (nonneg : 0 ≤ target) (inside : target < list.length)
    (position : Int) :
    at? (insertAt (eraseAt list source) target value) (moveShift source target position) =
      at? list position := by
  have sourceInside := (at?_isSome_iff list source).mp (by rw [taken]; rfl)
  have targetInside : target ≤ (eraseAt list source).length := by
    rw [length_eraseAt sourceInside.1 sourceInside.2]
    omega
  by_cases moved : position = source
  · subst moved
    rw [moveShift, if_pos rfl, at?_insertAt_self value nonneg targetInside, taken]
  · rw [← at?_eraseAt_eraseShift sourceInside.1 moved,
      ← at?_insertAt_insertShift value nonneg targetInside]
    congr 1
    simp only [moveShift, insertShift, eraseShift]
    split_ifs <;> omega

theorem at?_setAt_self {list : List α} {index : Int} (value : α)
    (nonneg : 0 ≤ index) (inside : index < list.length) :
    at? (setAt list index value) index = some value := by
  grind [at?, setAt]

theorem at?_setAt_of_ne {list : List α} {index position : Int} (value : α)
    (nonneg : 0 ≤ index) (other : position ≠ index) :
    at? (setAt list index value) position = at? list position := by
  cases position <;> grind [at?, setAt]

/-! ## Maps and members -/

theorem map_insertAt (f : α → β) (list : List α) (index : Int) (value : α) :
    (insertAt list index value).map f = insertAt (list.map f) index (f value) :=
  List.map_insertIdx ..

theorem map_eraseAt (f : α → β) (list : List α) (index : Int) :
    (eraseAt list index).map f = eraseAt (list.map f) index :=
  (List.eraseIdx_map ..).symm

theorem map_setAt (f : α → β) (list : List α) (index : Int) (value : α) :
    (setAt list index value).map f = setAt (list.map f) index (f value) :=
  List.map_set

theorem mem_insertAt {list : List α} {index : Int} (nonneg : 0 ≤ index)
    (inside : index ≤ list.length) :
    element ∈ insertAt list index value ↔ element = value ∨ element ∈ list := by
  exact List.mem_insertIdx (by omega)

theorem mem_of_mem_eraseAt {list : List α} {index : Int} (member : element ∈ eraseAt list index) :
    element ∈ list :=
  List.mem_of_mem_eraseIdx member

/-- An element other than the one at `index` survives when that one is erased. -/
theorem mem_eraseAt_of_ne {list : List α} {index : Int} (taken : at? list index = some value)
    (member : element ∈ list) (other : element ≠ value) : element ∈ eraseAt list index := by
  have inside := (at?_isSome_iff list index).mp (by rw [taken]; rfl)
  rw [at?_of_nonneg list inside.1] at taken
  obtain ⟨position, found⟩ := List.mem_iff_getElem?.mp member
  refine List.mem_eraseIdx_iff_getElem?.mpr ⟨position, ?_, found⟩
  grind

/-- In a list without repetitions the erased element is gone. -/
theorem not_mem_eraseAt {list : List α} (nodup : list.Nodup) {index : Int}
    (taken : at? list index = some value) : value ∉ eraseAt list index := by
  have inside := (at?_isSome_iff list index).mp (by rw [taken]; rfl)
  rw [at?_of_nonneg list inside.1] at taken
  intro member
  obtain ⟨position, other, found⟩ := List.mem_eraseIdx_iff_getElem?.mp member
  grind [List.getElem?_inj, taken.symm]

theorem mem_setAt_of_ne {list : List α} {index : Int} (new : α)
    (taken : at? list index = some value) (member : element ∈ list) (other : element ≠ value) :
    element ∈ setAt list index new := by
  have inside := (at?_isSome_iff list index).mp (by rw [taken]; rfl)
  rw [at?_of_nonneg list inside.1] at taken
  obtain ⟨position, found⟩ := List.mem_iff_getElem?.mp member
  refine List.mem_of_getElem? (i := position) ?_
  rw [setAt, List.getElem?_set_ne, found]
  grind

theorem mem_or_eq_of_mem_setAt {list : List α} {index : Int}
    (member : element ∈ setAt list index value) : element ∈ list ∨ element = value :=
  List.mem_or_eq_of_mem_set member

/-- In a list without repetitions the overwritten element is gone. -/
theorem not_mem_setAt {list : List α} (nodup : list.Nodup) {index : Int} {new : α}
    (taken : at? list index = some value) (different : value ≠ new) :
    value ∉ setAt list index new := by
  have inside := (at?_isSome_iff list index).mp (by rw [taken]; rfl)
  intro member
  obtain ⟨position, found⟩ := List.mem_iff_getElem?.mp member
  have foundAt : at? (setAt list index new) position = some value := found
  by_cases same : (position : Int) = index
  · rw [same, at?_setAt_self new inside.1 inside.2] at foundAt
    exact different (Option.some.inj foundAt).symm
  · grind [at?_setAt_of_ne, at?_inj]

/-- An element that is taken out and put back. -/
theorem insertAt_eraseAt_self {list : List α} {index : Int} (taken : at? list index = some value) :
    insertAt (eraseAt list index) index value = list := by
  have inside := (at?_isSome_iff list index).mp (by rw [taken]; rfl)
  grind [insertAt, eraseAt, at?_of_nonneg, List.insertIdx_eraseIdx_getElem]

/-! ## Permutations -/

theorem insertAt_perm {list : List α} {index : Int} (value : α) (nonneg : 0 ≤ index)
    (inside : index ≤ list.length) : (insertAt list index value).Perm (value :: list) :=
  List.perm_insertIdx value list (by omega)

theorem cons_eraseAt_perm {list : List α} {index : Int} (taken : at? list index = some value) :
    (value :: eraseAt list index).Perm list := by
  have inside := (at?_isSome_iff list index).mp (by rw [taken]; rfl)
  grind [eraseAt, at?_of_nonneg, List.getElem_cons_eraseIdx_perm]

/-- Moving an element is a permutation. -/
theorem move_perm {list : List α} {source target : Int} (taken : at? list source = some value)
    (nonneg : 0 ≤ target) (inside : target < list.length) :
    (insertAt (eraseAt list source) target value).Perm list := by
  have sourceInside := (at?_isSome_iff list source).mp (by rw [taken]; rfl)
  have shorter := length_eraseAt sourceInside.1 sourceInside.2
  exact (insertAt_perm value nonneg (by omega)).trans (cons_eraseAt_perm taken)

/-- An element takes the place of another one. -/
theorem cons_setAt_perm {list : List α} {index : Int} (new : α)
    (taken : at? list index = some value) : (value :: setAt list index new).Perm (new :: list) := by
  have inside := (at?_isSome_iff list index).mp (by rw [taken]; rfl)
  have shorter := length_eraseAt inside.1 inside.2
  have atEnd : index ≤ (eraseAt list index).length := by omega
  have replaced := setAt_insertAt value new inside.1 atEnd
  rw [insertAt_eraseAt_self taken] at replaced
  rw [replaced]
  refine ((insertAt_perm new inside.1 atEnd).cons value).trans ?_
  refine (List.Perm.swap new value _).trans ?_
  exact (cons_eraseAt_perm taken).cons new

theorem nodup_setAt {list : List α} {index : Int} (nodup : list.Nodup) (fresh : value ∉ list) :
    (setAt list index value).Nodup :=
  nodup.set fresh

theorem nodup_insertAt {list : List α} {index : Int} (nodup : list.Nodup) (fresh : value ∉ list)
    (nonneg : 0 ≤ index) (inside : index ≤ list.length) : (insertAt list index value).Nodup :=
  by grind [insertAt_perm]

theorem nodup_eraseAt {list : List α} (nodup : list.Nodup) (index : Int) :
    (eraseAt list index).Nodup :=
  nodup.eraseIdx _

theorem map_modify (f : α → β) {change : α → α} {changed : β → β}
    (same : ∀ element, f (change element) = changed (f element)) (list : List α)
    (position : Nat) :
    (list.modify position change).map f = (list.map f).modify position changed := by
  induction list generalizing position with
  | nil => cases position <;> rfl
  | cons _ _ _ =>
    grind

theorem modify_append (f : α → α) (left right : List α) (position : Nat) :
    (left ++ right).modify position f =
      if position < left.length then left.modify position f ++ right
      else left ++ right.modify (position - left.length) f := by
  induction left generalizing position with
  | nil => simp
  | cons _ _ _ =>
    grind

/-! ## Elements found by a key -/

section Key

variable [DecidableEq β] (key : α → β) {list : List α} {sought : β}

theorem findIdx?_key (nodup : (list.map key).Nodup) {position : Nat}
    (found : (list.map key)[position]? = some sought) :
    list.findIdx? (fun element => key element = sought) = some position := by
  have mapped := found
  rw [List.getElem?_map] at mapped
  obtain ⟨element, taken, same⟩ := Option.map_eq_some_iff.mp mapped
  obtain ⟨bound, rfl⟩ := List.getElem?_eq_some_iff.mp taken
  refine List.findIdx?_eq_some_iff_getElem.mpr ⟨bound, decide_eq_true same, ?_⟩
  intro earlier before matched
  have foundEarlier : (list.map key)[earlier]? = some sought := by
    grind
  have twice : (earlier : Int) = position := at?_inj nodup foundEarlier found
  omega

theorem findIdx?_key_eq_none (absent : sought ∉ list.map key) :
    list.findIdx? (fun element => key element = sought) = none := by
  simpa using absent

end Key

end ChromiumIos.Lib
