import ChromiumIos.Frames.JsonWriter

/-!
# What is read from the text of a value

What is read from the text in some encoding is the value whose strings have the units
of the encoding in place of the characters that were not escaped.
-/

namespace ChromiumIos

open Lib Lib.Json

namespace BaseValue

/-! ## When two readings are the same -/

section Readings

variable {units units' : Char → List UInt16}

mutual

theorem toJs_eq_iff (value : BaseValue) :
    value.toJs (.object none) units = value.toJs (.object none) units' ↔
      ∀ text ∈ value.strings, text.flatMap units = text.flatMap units' := by
  cases value <;> simp [toJs, strings, toJsEach_eq_iff, toJsEntries_eq_iff]

theorem toJsEach_eq_iff (values : List BaseValue) :
    toJsEach (.object none) units values = toJsEach (.object none) units' values ↔
      ∀ text ∈ stringsEach values, text.flatMap units = text.flatMap units' := by
  cases values with
  | nil => simp [toJsEach, stringsEach]
  | cons _ _ =>
    rw [toJsEach, toJsEach, stringsEach, List.cons.injEq, List.forall_mem_append]
    simp [toJs_eq_iff, toJsEach_eq_iff]

theorem toJsEntries_eq_iff (entries : List (List Char × BaseValue)) :
    toJsEntries (.object none) units entries = toJsEntries (.object none) units' entries ↔
      ∀ text ∈ stringsEntries entries, text.flatMap units = text.flatMap units' := by
  cases entries with
  | nil => exact ⟨fun _ _ mem => (by cases mem), fun _ => rfl⟩
  | cons entry _ =>
    obtain ⟨_, _⟩ := entry
    rw [toJsEntries, toJsEntries, stringsEntries, List.cons.injEq, Prod.mk.injEq,
      List.forall_mem_cons, List.forall_mem_append, and_assoc]
    simp [toJs_eq_iff, toJsEntries_eq_iff]

end

theorem length_toJsEntries (object : List (List UInt16 × JsValue) → JsValue)
    (units : Char → List UInt16) (entries : List (List Char × BaseValue)) :
    (toJsEntries object units entries).length = entries.length := by
  induction entries with
  | nil => rfl
  | cons _ _ ih => exact congrArg Nat.succ ih

theorem keys_toJsEntries (object : List (List UInt16 × JsValue) → JsValue)
    (units : Char → List UInt16) (entries : List (List Char × BaseValue)) :
    (toJsEntries object units entries).map Prod.fst =
      entries.map fun entry => entry.1.flatMap units := by
  induction entries with
  | nil => rfl
  | cons _ _ ih => exact congrArg _ ih

/-- An object literal has its members for properties exactly if none sets the prototype. -/
theorem objectLiteral_eq_iff {members properties : List (List UInt16 × JsValue)}
    (length : members.length = properties.length) :
    objectLiteral members = .object none properties ↔
      (∀ member ∈ members, member.1 ≠ protoKey) ∧ members = properties := by
  rw [objectLiteral, JsValue.object.injEq]
  constructor
  · rintro ⟨-, same⟩
    have all : members.filter (fun member => member.1 ≠ protoKey) = members := by
      refine List.filter_sublist.eq_of_length ?_
      rw [same, length]
    grind
  · rintro ⟨none, rfl⟩
    have noPrototype : members.filter
        (fun member => member.1 = protoKey && member.2.isObjectOrNull) = [] := by
      refine List.filter_eq_nil_iff.mpr fun member mem sets => none member mem ?_
      grind
    simpa [noPrototype] using none

mutual

/-- A script has the value itself exactly if no key of a dictionary sets a prototype. -/
theorem toJs_objectLiteral_iff (value : BaseValue) :
    value.toJs objectLiteral units = value.toJs (.object none) units ↔
      ∀ key ∈ value.keys, key.flatMap units ≠ protoKey := by
  cases value with
  | null | boolean value | number literal | string text =>
    simp [toJs, keys]
  | list _ =>
    simp [toJs, keys, toJsEach_objectLiteral_iff]
  | dictionary entries =>
    rw [toJs, toJs, keys, List.forall_mem_append, objectLiteral_eq_iff
      (by simp [length_toJsEntries]), toJsEntries_objectLiteral_iff entries]
    refine and_congr_left fun _ => ?_
    have same : (∀ key ∈ (toJsEntries objectLiteral units entries).map Prod.fst,
        key ≠ protoKey) ↔ ∀ key ∈ entries.map fun entry => entry.1.flatMap units,
          key ≠ protoKey := by rw [keys_toJsEntries]
    simpa only [List.forall_mem_map] using same

theorem toJsEach_objectLiteral_iff (values : List BaseValue) :
    toJsEach objectLiteral units values = toJsEach (.object none) units values ↔
      ∀ key ∈ keysEach values, key.flatMap units ≠ protoKey := by
  cases values with
  | nil => exact ⟨fun _ _ mem => (by cases mem), fun _ => rfl⟩
  | cons _ _ =>
    rw [toJsEach, toJsEach, keysEach, List.cons.injEq, List.forall_mem_append]
    simp [toJs_objectLiteral_iff, toJsEach_objectLiteral_iff]

theorem toJsEntries_objectLiteral_iff (entries : List (List Char × BaseValue)) :
    toJsEntries objectLiteral units entries = toJsEntries (.object none) units entries ↔
      ∀ key ∈ keysEntries entries, key.flatMap units ≠ protoKey := by
  cases entries with
  | nil => exact ⟨fun _ _ mem => (by cases mem), fun _ => rfl⟩
  | cons entry _ =>
    obtain ⟨_, _⟩ := entry
    rw [toJsEntries, toJsEntries, keysEntries, List.cons.injEq, Prod.mk.injEq,
      List.forall_mem_append]
    simp [toJs_objectLiteral_iff, toJsEntries_objectLiteral_iff]

end

end Readings

end BaseValue

namespace JSONWriter

variable {encoding : Encoding}

/-! ## Strings -/

def consUnits (units : List UInt16) (read : List UInt16 × List UInt16) :
    List UInt16 × List UInt16 :=
  units.foldr consUnit read

theorem hexValue_hexDigit : ∀ n < 16, hexValue (unit (hexDigit n)) = some n := by decide

theorem ascii_hexDigit : ∀ n < 16, (hexDigit n).toNat < 128 := by decide

theorem hexUnit_hexDigits {n : Nat} (bound : n < 65536) :
    hexUnit (unit (hexDigit (n / 4096))) (unit (hexDigit (n / 256 % 16)))
      (unit (hexDigit (n / 16 % 16))) (unit (hexDigit (n % 16))) = some (UInt16.ofNat n) := by
  have sum : n / 4096 * 4096 + n / 256 % 16 * 256 + n / 16 % 16 * 16 + n % 16 = n := by omega
  rw [hexUnit, hexValue_hexDigit _ (by omega), hexValue_hexDigit _ (by omega),
    hexValue_hexDigit _ (by omega), hexValue_hexDigit _ (by omega)]
  change some (UInt16.ofNat (n / 4096 * 4096 + n / 256 % 16 * 256 + n / 16 % 16 * 16 + n % 16)) = _
  rw [sum]

def unitsRead (encoding : Encoding) (c : Char) : List UInt16 :=
  if (shortEscape c).isSome ∨ NeedsHex c then [unit c] else encoding.units c

theorem ne_of_large {u : UInt16} (large : 128 ≤ u.toNat) {c : Char} (ascii : c.toNat < 128) :
    u ≠ unit c := by
  grind [unit, UInt16.toNat_ofNat']

theorem parseString_large {units : List UInt16} (large : ∀ u ∈ units, 128 ≤ u.toNat)
    (rest : List UInt16) :
    parseString (units ++ rest) = (parseString rest).map (consUnits units) := by
  induction units with
  | nil =>
    cases read : parseString rest <;> rw [List.nil_append, read] <;> rfl
  | cons u _ ih =>
    have above := large u List.mem_cons_self
    have notControl : ¬ u < 32 := by
      exact Nat.not_lt_of_le (Nat.le_trans (by decide) above)
    rw [List.cons_append, parseString_cons (ne_of_large above (by decide))
      (ne_of_large above (by decide)) notControl,
      ih fun other mem => large other (List.mem_cons_of_mem _ mem), Option.map_map]
    rfl

/-- An ASCII character that is not escaped stands for itself. -/
theorem visible_of_ascii {c : Char} (ascii : c.toNat < 128) (notShort : shortEscape c = none)
    (notHex : ¬ NeedsHex c) : unit c ≠ unit '"' ∧ unit c ≠ unit '\\' ∧ ¬ unit c < 32 := by
  have visible : ∀ n < 128, shortEscape (Char.ofNat n) = none → ¬ NeedsHex (Char.ofNat n) →
      unit (Char.ofNat n) ≠ unit '"' ∧ unit (Char.ofNat n) ≠ unit '\\' ∧
        ¬ unit (Char.ofNat n) < 32 := by decide
  grind [Char.ofNat_toNat]

theorem shortEscape_spec {c letter : Char} (short : shortEscape c = some letter) :
    letter.toNat < 128 ∧ unit letter ≠ unit 'u' ∧ simpleEscape (unit letter) = some (unit c) := by
  unfold shortEscape at short
  split at short
  · next same =>
      cases short
      subst same
      decide
  split at short
  · next same =>
      cases short
      subst same
      decide
  split at short
  · next same =>
      cases short
      simp [unit, simpleEscape, same]
  split at short
  · next same =>
      cases short
      simp [unit, simpleEscape, same]
  split at short
  · next same =>
      cases short
      subst same
      decide
  split at short
  · next same =>
      cases short
      subst same
      decide
  split at short
  · next same =>
      cases short
      subst same
      decide
  · cases short

theorem parseString_escape (c : Char) (rest : List UInt16) :
    parseString (encoding.text (escape c) ++ rest) =
      (parseString rest).map (consUnits (unitsRead encoding c)) := by
  unfold escape
  cases short : shortEscape c with
  | some _ =>
    obtain ⟨ascii, notHex, simple⟩ := shortEscape_spec short
    have read : unitsRead encoding c = [unit c] := by
      simp [unitsRead, short]
    rw [read, encoding.text_cons_ascii (by decide), encoding.text_cons_ascii ascii]
    exact parseString_simple notHex simple rest
  | none =>
    dsimp only
    by_cases hex : NeedsHex c
    · have bound : c.toNat < 65536 := by
        rcases hex with control | rfl | separator | separator <;> grind
      have read : unitsRead encoding c = [unit c] := by rw [unitsRead, if_pos (.inr hex)]
      rw [if_pos hex, read, encoding.text_cons_ascii (by decide),
        encoding.text_cons_ascii (by decide), hexDigits,
        encoding.text_cons_ascii (ascii_hexDigit _ (by omega)),
        encoding.text_cons_ascii (ascii_hexDigit _ (by omega)),
        encoding.text_cons_ascii (ascii_hexDigit _ (by omega)),
        encoding.text_cons_ascii (ascii_hexDigit _ (by omega))]
      exact parseString_hex (hexUnit_hexDigits bound) rest
    · have read : unitsRead encoding c = encoding.units c := by
        simp [unitsRead, short, hex]
      rw [if_neg hex, read]
      have own : encoding.text [c] = encoding.units c := by
        simp [encoding.text_cons]
      rw [own]
      by_cases ascii : c.toNat < 128
      · obtain ⟨notQuote, notBackslash, notControl⟩ := visible_of_ascii ascii short hex
        rw [encoding.ascii c ascii]
        exact parseString_cons notQuote notBackslash notControl rest
      · exact parseString_large (encoding.other c ascii).2 rest

theorem parseString_writeString (text : List Char) (rest : List UInt16) :
    parseString (encoding.text (text.flatMap escape ++ ['"']) ++ rest) =
      some (text.flatMap (unitsRead encoding), rest) := by
  induction text with
  | nil =>
    rw [List.flatMap_nil, List.nil_append, encoding.text_cons_ascii (by decide)]
    exact parseString_quote rest
  | cons c text _ =>
    have split : encoding.text ((c :: text).flatMap escape ++ ['"']) ++ rest =
        encoding.text (escape c) ++
          (encoding.text (text.flatMap escape ++ ['"']) ++ rest) := by
      simp
    have put : ∀ units read : List UInt16,
        consUnits units (read, rest) = (units ++ read, rest) := by
      intro units read
      induction units with
      | nil => rfl
      | cons u _ ihUnits =>
        exact congrArg (consUnit u) ihUnits
    grind [parseString_escape]

/-! ## Values -/

section Values

variable {object : List (List UInt16 × JsValue) → JsValue}

theorem text_writeString (text : List Char) (rest : List UInt16) :
    encoding.text (writeString text) ++ rest =
      unit '"' :: (encoding.text (text.flatMap escape ++ ['"']) ++ rest) := by
  rw [writeString, encoding.text_cons_ascii (by decide)]
  rfl

theorem reads_string (text : List Char) {fuel : Nat} (enough : 0 < fuel) :
    Reads encoding (parseValue object fuel) (writeString text)
      (.string (text.flatMap (unitsRead encoding))) where
  opens := ⟨'"', by decide, _, rfl⟩
  reads rest _ := by
    obtain ⟨_, rfl⟩ := Nat.exists_eq_succ_of_ne_zero (Nat.ne_of_gt enough)
    rw [text_writeString, parseValue, if_pos rfl, parseString_writeString]
    rfl

theorem reads_keyword {first : Char} {keyword : List Char} {value : JsValue} {fuel : Nat}
    (opens : first ∈ openers) (ascii : ∀ c ∈ keyword, c.toNat < 128)
    (parsed : ∀ input, parseValue object (fuel + 1) (unit first :: input) =
      parseKeyword keyword value input) :
    Reads encoding (parseValue object (fuel + 1)) (first :: keyword) value where
  opens := ⟨first, opens, keyword, rfl⟩
  reads rest _ := by
    grind [ascii_of_mem_openers, parseKeyword_append, encoding.text_cons_ascii]

theorem literal_opens (literal : NumberLiteral) :
    ∃ c ∈ openers, (∃ rest, literal.text = c :: rest) ∧ c ∉ ['"', '[', '\x7b', 'n', 't', 'f'] := by
  obtain ⟨text, ascii, accepted⟩ := literal
  cases text with
  | nil => cases accepted
  | cons _ _ =>
    obtain ⟨after, moved, -⟩ := (Option.any_eq_true _ _).mp accepted
    have begins : ∀ n < 128, (NumberState.start.next (unit (Char.ofNat n))).isSome →
        Char.ofNat n ∈ openers ∧ Char.ofNat n ∉ ['"', '[', '\x7b', 'n', 't', 'f'] := by decide
    grind [List.mem_cons_self, Char.ofNat_toNat]

theorem reads_number (literal : NumberLiteral) {fuel : Nat} (enough : 0 < fuel) :
    Reads encoding (parseValue object fuel) literal.text (.number (literal.text.map unit)) := by
  obtain ⟨c, mem, ⟨tail, shape⟩, notOther⟩ := literal_opens literal
  refine ⟨⟨c, mem, tail, shape⟩, fun rest follows => ?_⟩
  obtain ⟨_, rfl⟩ := Nat.exists_eq_succ_of_ne_zero (Nat.ne_of_gt enough)
  have scanned := NumberState.scan_append literal.accepted follows
  have apart : ∀ c ∈ openers, c ∉ ['"', '[', '\x7b', 'n', 't', 'f'] →
      ∀ other ∈ ['"', '[', '\x7b', 'n', 't', 'f'], unit c ≠ unit other := by decide
  have different := apart c mem notOther
  have split : literal.text.map unit ++ rest = unit c :: (tail.map unit ++ rest) := by
    rw [shape]
    rfl
  rw [encoding.text_ascii literal.ascii, split, parseValue,
    if_neg (different _ (by decide)), if_neg (different _ (by decide)),
    if_neg (different _ (by decide)), if_neg (different _ (by decide)),
    if_neg (different _ (by decide)), if_neg (different _ (by decide)), ← split, scanned]
  rfl

theorem write_ne_nil (value : BaseValue) : write value ≠ [] := by
  cases value with
  | boolean value => cases value <;> nofun
  | number literal =>
    obtain ⟨_, -, ⟨_, shape⟩, -⟩ := literal_opens literal
    rw [write, shape]
    nofun
  | null | string text | list values | dictionary entries => nofun

theorem reads_member {item : List UInt16 → Option (JsValue × List UInt16)} {text : List Char}
    {value : JsValue} (key : List Char) (reads : Reads encoding item text value) :
    Reads encoding (parseMember item) (writeString key ++ ':' :: text)
      (key.flatMap (unitsRead encoding), value) where
  opens := ⟨'"', by decide, _, rfl⟩
  reads rest follows := by
    have split : encoding.text (writeString key ++ ':' :: text) ++ rest =
        encoding.text (writeString key) ++ unit ':' :: (encoding.text text ++ rest) := by
      rw [encoding.text_append, encoding.text_cons_ascii (by decide), List.append_assoc]
      rfl
    have visible : ∀ input, skipSpace (unit ':' :: input) = unit ':' :: input :=
      fun input => List.dropWhile_cons_of_neg (by decide)
    rw [split, text_writeString, parseMember, if_pos rfl, parseString_writeString]
    simp [visible, reads.skipSpace_text, reads.reads rest follows]

theorem writeEach_ne_nil (values : List BaseValue) : ∀ text ∈ writeEach values, text ≠ [] := by
  induction values with
  | nil => exact fun _ mem => by cases mem
  | cons _ _ _ =>
    grind [writeEach, write_ne_nil]

theorem writeEntries_ne_nil (entries : List (List Char × BaseValue)) :
    ∀ text ∈ writeEntries entries, text ≠ [] := by
  induction entries with
  | nil => exact fun _ mem => by cases mem
  | cons _ _ ih =>
    simpa [writeEntries] using ih

mutual

/-- What has been written is read as the value it was written for. -/
theorem reads_write (value : BaseValue) (fuel : Nat) (enough : (write value).length ≤ fuel) :
    Reads encoding (parseValue object fuel) (write value)
      (value.toJs object (unitsRead encoding)) := by
  have positive : 0 < fuel :=
    by grind [List.length_pos_of_ne_nil, write_ne_nil]
  obtain ⟨fuel, rfl⟩ := Nat.exists_eq_succ_of_ne_zero (Nat.ne_of_gt positive)
  cases value with
  | null => exact reads_keyword (by decide) (by decide) fun _ => rfl
  | boolean value =>
    cases value with
    | true | false => exact reads_keyword (by decide) (by decide) fun _ => rfl
  | number literal => exact reads_number literal positive
  | string text => exact reads_string text positive
  | list values =>
    have room : (items ']' (writeEach values)).length ≤ fuel := Nat.le_of_succ_le_succ enough
    obtain ⟨count, longer⟩ := length_le_length_items ']' (writeEach_ne_nil values)
    have each := reads_writeEach values fuel (by grind)
    refine ⟨⟨'[', by decide, _, rfl⟩, fun rest _ => ?_⟩
    have closes : ']' ∈ closers := by decide
    have parsed := parseItems_items closes (by decide) (Nat.le_trans count room) each rest
    rw [write, encoding.text_cons_ascii (by decide), List.cons_append, parseValue,
      if_neg (by decide), if_pos rfl, parsed]
    rfl
  | dictionary entries =>
    have room : (items '\x7d' (writeEntries entries)).length ≤ fuel :=
      Nat.le_of_succ_le_succ enough
    obtain ⟨count, longer⟩ := length_le_length_items '\x7d' (writeEntries_ne_nil entries)
    have each := reads_writeEntries entries fuel (by grind)
    refine ⟨⟨'\x7b', by decide, _, rfl⟩, fun rest _ => ?_⟩
    have closes : '\x7d' ∈ closers := by decide
    have parsed := parseItems_items closes (by decide) (Nat.le_trans count room) each rest
    rw [write, encoding.text_cons_ascii (by decide), List.cons_append, parseValue,
      if_neg (by decide), if_neg (by decide), if_pos rfl, parsed]
    rfl

theorem reads_writeEach (values : List BaseValue) (fuel : Nat)
    (enough : ∀ text ∈ writeEach values, text.length ≤ fuel) :
    List.Forall₂ (Reads encoding (parseValue object fuel)) (writeEach values)
      (BaseValue.toJsEach object (unitsRead encoding) values) := by
  cases values with
  | nil => exact .nil
  | cons value rest =>
    exact .cons (reads_write value fuel (enough _ List.mem_cons_self))
      (reads_writeEach rest fuel fun text mem => enough text (List.mem_cons_of_mem _ mem))

theorem reads_writeEntries (entries : List (List Char × BaseValue)) (fuel : Nat)
    (enough : ∀ text ∈ writeEntries entries, text.length ≤ fuel) :
    List.Forall₂ (Reads encoding (parseMember (parseValue object fuel))) (writeEntries entries)
      (BaseValue.toJsEntries object (unitsRead encoding) entries) := by
  cases entries with
  | nil => exact .nil
  | cons entry rest =>
    obtain ⟨key, value⟩ := entry
    have room := enough _ List.mem_cons_self
    rw [List.length_append, List.length_cons] at room
    exact .cons (reads_member key (reads_write value fuel (by omega)))
      (reads_writeEntries rest fuel fun text mem => enough text (List.mem_cons_of_mem _ mem))

end

theorem parse_write (value : BaseValue) :
    Json.parse (encoding.text (write value)) =
      some (value.toJs (.object none) (unitsRead encoding)) := by
  have reads : Reads encoding (parseValue (.object none) _) (write value) _ :=
    reads_write value _ (encoding.length_le_length_text (write value))
  have visible := reads.skipSpace_text []
  have parsed := reads.reads [] follows_nil
  rw [List.append_nil] at visible parsed
  rw [Json.parse, visible, parsed]
  rfl

theorem evaluateArguments_write (values : List BaseValue) :
    evaluateArguments (encoding.text (items ')' (writeEach values))) =
      some (BaseValue.toJsEach objectLiteral (unitsRead encoding) values) := by
  have closes : ')' ∈ closers := by decide
  have room := encoding.length_le_length_text (items ')' (writeEach values))
  obtain ⟨count, longer⟩ := length_le_length_items ')' (writeEach_ne_nil values)
  have each : List.Forall₂ (Reads encoding (parseValue objectLiteral _)) (writeEach values) _ :=
    reads_writeEach values _ fun text mem =>
      Nat.le_trans (Nat.le_of_lt (longer text mem)) room
  have parsed := parseItems_items closes (by decide) (Nat.le_trans count room) each []
  rw [List.append_nil] at parsed
  rw [evaluateArguments, parsed]
  rfl

end Values

end JSONWriter

end ChromiumIos
