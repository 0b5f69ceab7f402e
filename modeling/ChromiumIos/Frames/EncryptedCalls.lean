import ChromiumIos.Frames.JsonReading

/-!
# Calls that are sealed and calls that are evaluated

A call is written as a dictionary, sealed, and opened by the page, which takes every
byte for a unit of the text it parses.  Without a key the call is a script, in which the
parameters are written one after the other.
-/

namespace ChromiumIos

open Lib Lib.Json

/-! ## Encodings -/

def utf16Units (c : Char) : List UInt16 :=
  if c.toNat < 65536 then [unit c]
  else [UInt16.ofNat (55296 + (c.toNat - 65536) / 1024),
    UInt16.ofNat (56320 + (c.toNat - 65536) % 1024)]

def byteUnits (c : Char) : List UInt16 := (String.utf8EncodeChar c).map UInt8.toUInt16

variable {c : Char}

theorem toNat_unit (bound : c.toNat < 65536) : (unit c).toNat = c.toNat := by
  rw [unit, UInt16.toNat_ofNat']
  exact Nat.mod_eq_of_lt bound

def utf16 : Encoding where
  units := utf16Units
  ascii c small := if_pos (by omega)
  other c large := by
    unfold utf16Units
    split
    · next bound =>
        refine ⟨List.cons_ne_nil _ _, fun u mem => ?_⟩
        rw [List.mem_singleton.mp mem, toNat_unit bound]
        omega
    · next beyond =>
        have bound : c.toNat < 1114112 := by
          rcases c.valid with low | high
          · exact Nat.lt_trans low (by decide)
          · exact high.2
        refine ⟨List.cons_ne_nil _ _, fun u mem => ?_⟩
        rcases List.mem_cons.mp mem with rfl | mem
        · rw [UInt16.toNat_ofNat', Nat.mod_eq_of_lt (by omega)]
          omega
        · rw [List.mem_singleton.mp mem, UInt16.toNat_ofNat', Nat.mod_eq_of_lt (by omega)]
          omega

theorem byteUnits_eq (c : Char) :
    byteUnits c =
      (if c.toNat ≤ 127 then [c.toNat]
        else if c.toNat ≤ 2047 then [c.toNat / 64 % 32 + 192, c.toNat % 64 + 128]
        else if c.toNat ≤ 65535 then
          [c.toNat / 4096 % 16 + 224, c.toNat / 64 % 64 + 128, c.toNat % 64 + 128]
        else [c.toNat / 262144 % 8 + 240, c.toNat / 4096 % 64 + 128, c.toNat / 64 % 64 + 128,
          c.toNat % 64 + 128]).map UInt16.ofNat := by
  have value : c.val.toNat = c.toNat := rfl
  have byte : ∀ n < 256, (UInt8.ofNat n).toUInt16 = UInt16.ofNat n := by
    intro n bound
    apply UInt16.toNat_inj.mp
    rw [UInt8.toNat_toUInt16, UInt8.toNat_ofNat', UInt16.toNat_ofNat', Nat.mod_eq_of_lt bound,
      Nat.mod_eq_of_lt (by omega)]
  unfold byteUnits String.utf8EncodeChar
  rw [value]
  dsimp only
  split
  · rw [List.map_singleton, byte _ (by omega)]
    rfl
  split
  · simp only [List.map_cons, List.map_nil]
    rw [byte _ (by omega), byte _ (by omega)]
  split
  · simp only [List.map_cons, List.map_nil]
    rw [byte _ (by omega), byte _ (by omega), byte _ (by omega)]
  · simp only [List.map_cons, List.map_nil]
    rw [byte _ (by omega), byte _ (by omega), byte _ (by omega), byte _ (by omega)]

/-- The bytes of a text as the page takes them. -/
def utf8Bytes : Encoding where
  units := byteUnits
  ascii c small := by
    rw [byteUnits_eq, if_pos (by omega)]
    rfl
  other c large := by
    have unitLarge : ∀ n, 128 ≤ n → n < 256 → 128 ≤ (UInt16.ofNat n).toNat := by
      intro n lower upper
      rw [UInt16.toNat_ofNat', Nat.mod_eq_of_lt (by omega)]
      exact lower
    rw [byteUnits_eq, if_neg (by omega)]
    refine ⟨?_, fun u mem => ?_⟩
    · split
      · exact List.cons_ne_nil _ _
      split <;> exact List.cons_ne_nil _ _
    · obtain ⟨n, memBytes, rfl⟩ := List.mem_map.mp mem
      have range : 128 ≤ n ∧ n < 256 := by
        split at memBytes
        · simp only [List.mem_cons, List.not_mem_nil, or_false] at memBytes
          omega
        split at memBytes
        · simp only [List.mem_cons, List.not_mem_nil, or_false] at memBytes
          omega
        · simp only [List.mem_cons, List.not_mem_nil, or_false] at memBytes
          omega
      exact unitLarge n range.1 range.2

/-- A character that the page reads as it was written: one that is escaped or ASCII. -/
def Survives (c : Char) : Prop := c.toNat < 128 ∨ c.toNat = 0x2028 ∨ c.toNat = 0x2029
deriving Decidable

theorem length_byteUnits (large : ¬ c.toNat < 128) :
    (utf16Units c).length < (byteUnits c).length := by
  rw [byteUnits_eq, if_neg (by omega)]
  unfold utf16Units
  split
  · split
    · exact Nat.lt_succ_self 1
    · rw [List.length_map]
      split
      · exact Nat.lt_succ_of_lt (Nat.lt_succ_self 1)
      · exact Nat.lt_succ_of_lt (Nat.lt_succ_of_lt (Nat.lt_succ_self 1))
  · rw [if_neg (by omega), if_neg (by omega)]
    exact Nat.lt_succ_of_lt (Nat.lt_succ_self 2)

theorem shortEscape_large (large : ¬ c.toNat < 128) : JSONWriter.shortEscape c = none := by
  have different : ∀ other : Char, other.toNat < 128 → c ≠ other := by
    rintro other small rfl
    exact large small
  rw [JSONWriter.shortEscape, if_neg (different _ (by decide)), if_neg (different _ (by decide)),
    if_neg (by omega), if_neg (by omega), if_neg (different _ (by decide)),
    if_neg (different _ (by decide)), if_neg (different _ (by decide))]

theorem unitsRead_survives (survives : Survives c) :
    JSONWriter.unitsRead utf8Bytes c = utf16Units c := by
  have bound : c.toNat < 65536 := by
    unfold Survives at survives
    omega
  have own : utf16Units c = [unit c] := if_pos bound
  rw [JSONWriter.unitsRead, own]
  split
  · rfl
  · next plain =>
      rcases survives with small | separator
      · exact utf8Bytes.ascii c small
      · exact absurd (.inr (.inr (.inr separator))) plain

/-- Any other character becomes more units than it has. -/
theorem length_unitsRead (lost : ¬ Survives c) :
    (utf16Units c).length < (JSONWriter.unitsRead utf8Bytes c).length := by
  obtain ⟨large, separator⟩ := not_or.mp lost
  have plain : ¬ ((JSONWriter.shortEscape c).isSome ∨ JSONWriter.NeedsHex c) := by
    rw [shortEscape_large large]
    rintro (some | control | rfl | isSeparator)
    · cases some
    · omega
    · exact large (by decide)
    · exact separator isSeparator
  rw [JSONWriter.unitsRead, if_neg plain]
  exact length_byteUnits large

theorem flatMap_unitsRead_iff (text : List Char) :
    text.flatMap (JSONWriter.unitsRead utf8Bytes) = text.flatMap utf16Units ↔
      ∀ c ∈ text, Survives c := by
  have longer : ∀ text : List Char, (text.flatMap utf16Units).length ≤
      (text.flatMap (JSONWriter.unitsRead utf8Bytes)).length := by
    intro text
    induction text with
    | nil => exact Nat.le_refl _
    | cons c _ _ =>
      rw [List.flatMap_cons, List.flatMap_cons, List.length_append, List.length_append]
      by_cases survives : Survives c
      · rw [unitsRead_survives survives]
        omega
      · have more := length_unitsRead survives
        omega
  induction text with
  | nil => exact ⟨fun _ _ mem => (by cases mem), fun _ => rfl⟩
  | cons c rest ih =>
    rw [List.forall_mem_cons, List.flatMap_cons, List.flatMap_cons]
    by_cases survives : Survives c
    · rw [unitsRead_survives survives, List.append_cancel_left_eq]
      exact ih.trans (and_iff_right survives).symm
    · refine ⟨fun same => ?_, fun all => absurd all.1 survives⟩
      have lengths := congrArg List.length same
      rw [List.length_append, List.length_append] at lengths
      have more := length_unitsRead survives
      have rests := longer rest
      omega

theorem unitsRead_utf16 : JSONWriter.unitsRead utf16 = utf16Units := by
  funext c
  rw [JSONWriter.unitsRead]
  split
  · next escaped =>
      have bound : c.toNat < 65536 := by
        rcases escaped with short | control | rfl | separator | separator
        · by_contra large
          rw [shortEscape_large (by omega)] at short
          cases short
        · omega
        · decide
        · omega
        · omega
      exact (if_pos bound).symm
  · rfl

/-! ## Calls -/

structure JavaScriptCall where
  messageId : Int
  functionName : List Char
  parameters : List BaseValue
  replyWithResult : Bool

/-- What sealing and encoding do outside of this code. -/
structure Sealing where
  aeadSeal : List UInt8 → List UInt8 → List UInt8
  decrypt : List UInt8 → List UInt8 → Option (List UInt8)
  base64Encode : List UInt8 → List Char
  atob : List Char → Option (List UInt16)
  decrypt_seal : ∀ json iv, decrypt iv (aeadSeal json iv) = some json
  atob_base64Encode : ∀ bytes, atob (base64Encode bytes) = some (bytes.map UInt8.toUInt16)

structure RoutedMessage where
  payload : List Char
  iv : List Char

namespace JavaScriptCall

def functionNameKey : List Char := "functionName".toList
def messageIdKey : List Char := "messageId".toList
def parametersKey : List Char := "parameters".toList
def replyWithResultKey : List Char := "replyWithResult".toList

variable (call : JavaScriptCall)

/-- The message of a call; a dictionary is ordered by its keys. -/
def message : BaseValue :=
  .dictionary [(functionNameKey, .string call.functionName),
    (messageIdKey, .number (.ofInt call.messageId)), (parametersKey, .list call.parameters),
    (replyWithResultKey, .boolean call.replyWithResult)]

def callJavaScriptFunction (sealing : Sealing) (iv : List UInt8) : RoutedMessage :=
  let json := (JSONWriter.write call.message).flatMap String.utf8EncodeChar
  { payload := sealing.base64Encode (sealing.aeadSeal json iv)
    iv := sealing.base64Encode iv }

/-- The parameters of a call that is not sealed, as they stand in the script behind the opening
parenthesis. -/
def parameterStrings : List Char :=
  items ')' (JSONWriter.writeEach call.parameters)

end JavaScriptCall

def charCodes (binary : List UInt16) : List UInt8 := binary.map UInt16.toUInt8

def executeMessage (sealing : Sealing) (routed : RoutedMessage) : Option JsValue := do
  let encryptedFunctionArray ← (sealing.atob routed.payload).map charCodes
  let ivbuf ← (sealing.atob routed.iv).map charCodes
  let decrypted ← sealing.decrypt ivbuf encryptedFunctionArray
  let callJSON := decrypted.map UInt8.toUInt16
  Json.parse callJSON

def BaseValue.asJs (value : BaseValue) : JsValue := value.toJs (.object none) utf16Units

theorem toJsEach_eq_map (values : List BaseValue) :
    BaseValue.toJsEach (.object none) utf16Units values = values.map BaseValue.asJs := by
  induction values with
  | nil => rfl
  | cons _ _ ih => exact congrArg _ ih

namespace JavaScriptCall

variable (call : JavaScriptCall) (sealing : Sealing) (iv : List UInt8)

/-- The page obtains the call that was made, and its parameters are the arguments of the call that
is not sealed. -/
def Delivered : Prop :=
  ∃ callDict, executeMessage sealing (call.callJavaScriptFunction sealing iv) = some callDict ∧
    callDict.get (messageIdKey.map unit) =
      some (.number ((NumberLiteral.ofInt call.messageId).text.map unit)) ∧
    callDict.get (functionNameKey.map unit) =
      some (.string (call.functionName.flatMap utf16Units)) ∧
    callDict.get (replyWithResultKey.map unit) = some (.boolean call.replyWithResult) ∧
    callDict.get (parametersKey.map unit) = some (.array (call.parameters.map BaseValue.asJs)) ∧
    evaluateArguments (utf16.text call.parameterStrings) =
      some (call.parameters.map BaseValue.asJs)

def callDict : JsValue :=
  .object none
    [(functionNameKey.map unit,
        .string (call.functionName.flatMap (JSONWriter.unitsRead utf8Bytes))),
      (messageIdKey.map unit, .number ((NumberLiteral.ofInt call.messageId).text.map unit)),
      (parametersKey.map unit, .array
        (BaseValue.toJsEach (.object none) (JSONWriter.unitsRead utf8Bytes) call.parameters)),
      (replyWithResultKey.map unit, .boolean call.replyWithResult)]

theorem executeMessage_callJavaScriptFunction :
    executeMessage sealing (call.callJavaScriptFunction sealing iv) = some call.callDict := by
  have codes : ∀ bytes : List UInt8, charCodes (bytes.map UInt8.toUInt16) = bytes := by
    intro bytes
    rw [charCodes, List.map_map]
    exact (List.map_congr_left fun byte _ => UInt8.toUInt8_toUInt16 byte).trans (List.map_id' _)
  have taken : ((JSONWriter.write call.message).flatMap String.utf8EncodeChar).map
      UInt8.toUInt16 = utf8Bytes.text (JSONWriter.write call.message) := List.map_flatMap
  have obtained : executeMessage sealing (call.callJavaScriptFunction sealing iv) =
      Json.parse (utf8Bytes.text (JSONWriter.write call.message)) := by
    rw [executeMessage, callJavaScriptFunction, sealing.atob_base64Encode,
      sealing.atob_base64Encode]
    simp only [Option.map_some, Option.bind_eq_bind, Option.bind_some, codes,
      sealing.decrypt_seal, taken]
  have key : ∀ key : List Char, (∀ c ∈ key, c.toNat < 128) →
      key.flatMap (JSONWriter.unitsRead utf8Bytes) = key.map unit := by
    intro key ascii
    rw [(flatMap_unitsRead_iff key).mpr fun c mem => .inl (ascii c mem)]
    exact utf16.text_ascii ascii
  rw [obtained, JSONWriter.parse_write, message, BaseValue.toJs, callDict]
  simp only [BaseValue.toJsEntries, BaseValue.toJs]
  rw [key functionNameKey (by decide), key messageIdKey (by decide),
    key parametersKey (by decide), key replyWithResultKey (by decide)]

/-- A call is delivered exactly if its strings have no characters that become several bytes, except
the two that are escaped, and no key of a dictionary is the name of the prototype. -/
theorem delivered_iff :
    call.Delivered sealing iv ↔
      (∀ text ∈ call.functionName :: BaseValue.stringsEach call.parameters,
        ∀ c ∈ text, Survives c) ∧
      ∀ key ∈ BaseValue.keysEach call.parameters, key.flatMap utf16Units ≠ protoKey := by
  have evaluated : evaluateArguments (utf16.text call.parameterStrings) =
      some (BaseValue.toJsEach objectLiteral utf16Units call.parameters) := by
    rw [parameterStrings, JSONWriter.evaluateArguments_write, unitsRead_utf16]
  have names : call.callDict.get (functionNameKey.map unit) =
      some (.string (call.functionName.flatMap (JSONWriter.unitsRead utf8Bytes))) := rfl
  have parameters : call.callDict.get (parametersKey.map unit) = some (.array
      (BaseValue.toJsEach (.object none) (JSONWriter.unitsRead utf8Bytes) call.parameters)) := rfl
  have strings : (∀ text ∈ BaseValue.stringsEach call.parameters,
      text.flatMap (JSONWriter.unitsRead utf8Bytes) = text.flatMap utf16Units) ↔
        ∀ text ∈ BaseValue.stringsEach call.parameters, ∀ c ∈ text, Survives c :=
    forall₂_congr fun text _ => flatMap_unitsRead_iff text
  have delivered : call.Delivered sealing iv ↔
      call.functionName.flatMap (JSONWriter.unitsRead utf8Bytes) =
          call.functionName.flatMap utf16Units ∧
        BaseValue.toJsEach (.object none) (JSONWriter.unitsRead utf8Bytes) call.parameters =
          BaseValue.toJsEach (.object none) utf16Units call.parameters ∧
        BaseValue.toJsEach objectLiteral utf16Units call.parameters =
          BaseValue.toJsEach (.object none) utf16Units call.parameters := by
    rw [Delivered, executeMessage_callJavaScriptFunction, evaluated, ← toJsEach_eq_map]
    constructor
    · rintro ⟨dictionary, obtained, -, name, -, array, arguments⟩
      cases obtained
      rw [names, Option.some.injEq, JsValue.string.injEq] at name
      rw [parameters, Option.some.injEq, JsValue.array.injEq] at array
      exact ⟨name, array, Option.some.inj arguments⟩
    · rintro ⟨name, array, arguments⟩
      refine ⟨call.callDict, rfl, rfl, ?_, rfl, ?_, congrArg _ arguments⟩
      · rw [names, name]
      · rw [parameters, array]
  rw [delivered, flatMap_unitsRead_iff, BaseValue.toJsEach_eq_iff, strings,
    BaseValue.toJsEach_objectLiteral_iff, List.forall_mem_cons, and_assoc]

/-- Bytes that are written as the characters of their codes are read back. -/
theorem atob_open (bytes : List UInt8) :
    some ((bytes.map fun byte => Char.ofNat byte.toNat).map unit) =
      some (bytes.map UInt8.toUInt16) := by
  rw [List.map_map]
  refine congrArg some (List.map_congr_left fun byte _ => ?_)
  have bound := UInt8.toNat_lt byte
  have code : (Char.ofNat byte.toNat).toNat = byte.toNat := by
    rw [Char.ofNat, dif_pos (.inl (by omega))]
    rfl
  change unit (Char.ofNat byte.toNat) = byte.toUInt16
  apply UInt16.toNat_inj.mp
  rw [unit, code, UInt16.toNat_ofNat', UInt8.toNat_toUInt16, Nat.mod_eq_of_lt (by omega)]

/-- Bytes that are neither encrypted nor packed. -/
def openSealing : Sealing where
  aeadSeal json _ := json
  decrypt _ ciphertext := some ciphertext
  base64Encode bytes := bytes.map fun byte => Char.ofNat byte.toNat
  atob chars := some (chars.map unit)
  decrypt_seal _ _ := rfl
  atob_base64Encode := atob_open

def accented : JavaScriptCall where
  messageId := 4
  functionName := "autofill.setName".toList
  parameters := [.string ['J', 'o', 's', 'é']]
  replyWithResult := false

def prototyped : JavaScriptCall where
  messageId := 5
  functionName := "autofill.setName".toList
  parameters := [.dictionary [("__proto__".toList, .list [])]]
  replyWithResult := true

theorem not_delivered_accented :
    ¬ (∀ (call : JavaScriptCall) (sealing : Sealing) (iv : List UInt8),
      call.Delivered sealing iv) ∧
    (¬ accented.Delivered openSealing [1, 2, 3]) ∧ ¬ prototyped.Delivered openSealing [] := by
  have garbled : ¬ accented.Delivered openSealing [1, 2, 3] := by
    rintro ⟨dictionary, obtained, -, -, -, array, -⟩
    rw [executeMessage_callJavaScriptFunction] at obtained
    cases obtained
    have read : accented.callDict.get (parametersKey.map unit) =
        some (.array [.string [74, 111, 115, 195, 169]]) := rfl
    have meant : accented.parameters.map BaseValue.asJs = [.string [74, 111, 115, 233]] := rfl
    rw [read, meant, Option.some.injEq, JsValue.array.injEq, List.cons.injEq,
      JsValue.string.injEq] at array
    exact absurd array.1 (by decide)
  have inherited : ¬ prototyped.Delivered openSealing [] := by
    rintro ⟨dictionary, -, -, -, -, -, arguments⟩
    have meant : prototyped.parameters.map BaseValue.asJs =
        [.object none [(protoKey, .array [])]] := rfl
    have given : evaluateArguments (utf16.text prototyped.parameterStrings) =
        some [.object (some (.array [])) []] := by
      rw [parameterStrings, JSONWriter.evaluateArguments_write, unitsRead_utf16]
      rfl
    rw [given, meant, Option.some.injEq, List.cons.injEq, JsValue.object.injEq] at arguments
    cases arguments.1.1
  exact ⟨fun delivered => garbled (delivered accented openSealing [1, 2, 3]), garbled, inherited⟩

end JavaScriptCall

end ChromiumIos
