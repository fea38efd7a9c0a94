import DesktopCapture.Error
import DesktopCapture.Number.Signed
import Mathlib.Data.List.Basic

/-!
# Errors are told apart by their texts

Every error can be read back from its text.  A platform failure ends in the word of its
status code, which is always of one width, so its label is found from the end of the text and
may hold anything, digits and the words around it included.  The texts of the four causes
begin differently, and a monitor's number stands alone between two fixed texts.
-/

namespace DesktopCapture

/-! ## Beginnings and ends of texts -/

theorem dropPrefix?_append (front rest : List Char) :
    (front ++ rest).dropPrefix? front = some rest :=
  List.dropPrefix?_eq_some_iff.mpr ⟨front, rfl, beq_self_eq_true front⟩

theorem dropSuffix?_append (rest back : List Char) :
    (rest ++ back).dropSuffix? back = some rest :=
  List.dropSuffix?_eq_some_iff.mpr ⟨back, rfl, beq_self_eq_true back⟩

/-! ## Reading texts back -/

/-- What is read back from its text is told by it. -/
theorem injective_of_read {α : Type} {text : α → String} {read? : String → Option α}
    (hread : ∀ value, read? (text value) = some value) : Function.Injective text := by
  intro value value' hsame
  apply Option.some.inj
  rw [← hread value, hsame, hread value']

namespace PlatformError

/-- The digits that a status code is shown as. -/
def digits (error : PlatformError) : List Char := Hex.fixed 8 error.code.toUInt32.toNat

theorem value_digits (error : PlatformError) :
    Hex.value? 0 error.digits = some error.code.toUInt32.toNat := by
  have hsmall : error.code.toUInt32.toNat % Nat.pow 16 8 = error.code.toUInt32.toNat :=
    Nat.mod_eq_of_lt error.code.toUInt32.toNat_lt
  rw [digits, Hex.value_fixed, Nat.zero_mul, Nat.zero_add, hsmall]

theorem toList_message (error : PlatformError) :
    error.message.toList = "Windows ".toList ++
      (error.call.toList ++ " call failed:\nHRESULT: 0x".toList ++ error.digits) := by
  simp only [message, digits, String.toList_append, String.toList_ofList, List.append_assoc]

/-- The platform failure that a text is of.  The last eight characters are its status code,
and its label is what stands between the words around it. -/
def ofMessage? (text : String) : Option PlatformError := do
  let rest ← text.toList.dropPrefix? "Windows ".toList
  let label ← (rest.take (rest.length - 8)).dropSuffix? " call failed:\nHRESULT: 0x".toList
  let code ← Hex.value? 0 (rest.drop (rest.length - 8))
  some ⟨String.ofList label, (UInt32.ofNat code).toInt32⟩

theorem ofMessage?_message (error : PlatformError) :
    ofMessage? error.message = some error := by
  have hplace (front : List Char) : (front ++ error.digits).length - 8 = front.length := by
    rw [List.length_append, digits, Hex.length_fixed, Nat.add_sub_cancel]
  rw [ofMessage?, toList_message, dropPrefix?_append]
  simp only [Option.bind_eq_bind, Option.bind_some, hplace, List.take_left', List.drop_left',
    dropSuffix?_append, value_digits]
  rw [String.ofList_toList, UInt32.ofNat_toNat, Int32.toInt32_toUInt32]

theorem message_injective : Function.Injective message :=
  injective_of_read ofMessage?_message

end PlatformError

namespace CaptureError

/-- The index of the monitor that a text says does not exist. -/
def missingMonitor? (text : String) : Option UInt32 := do
  let rest ← text.toList.dropPrefix? "Monitor ".toList
  let digits ← rest.dropSuffix? " does not exist".toList
  some (UInt32.ofNat (Nat.ofDigitChars 10 digits 0))

/-- The error that a text is of. -/
def ofMessage? (text : String) : Option CaptureError :=
  ((PlatformError.ofMessage? text).map .platform).or
    (((missingMonitor? text).map .notFound).or
      ([.accessLost, .timeout].find? fun error => error.message = text))

theorem toList_message_notFound (monitor : UInt32) :
    (notFound monitor).message.toList =
      "Monitor ".toList ++ (Nat.toDigits 10 monitor.toNat ++ " does not exist".toList) := by
  have hdigits : (toString monitor.toNat).toList = Nat.toDigits 10 monitor.toNat :=
    Nat.toList_repr
  simp only [message, String.toList_append, hdigits, List.append_assoc]

theorem missingMonitor?_message (monitor : UInt32) :
    missingMonitor? (notFound monitor).message = some monitor := by
  rw [missingMonitor?, toList_message_notFound, dropPrefix?_append]
  simp only [Option.bind_eq_bind, Option.bind_some, dropSuffix?_append,
    Nat.ofDigitChars_ten_toDigits, UInt32.ofNat_toNat]

/-- Every error is read back from its text. -/
theorem ofMessage?_message (error : CaptureError) : ofMessage? error.message = some error := by
  cases error with
  | platform failure =>
      have hread : PlatformError.ofMessage? (platform failure).message = some failure :=
        failure.ofMessage?_message
      rw [ofMessage?, hread]
      rfl
  | notFound monitor =>
      have hother : PlatformError.ofMessage? (notFound monitor).message = none := by
        rw [PlatformError.ofMessage?, toList_message_notFound]
        rfl
      rw [ofMessage?, hother, missingMonitor?_message]
      rfl
  | accessLost => decide +kernel
  | timeout => decide +kernel

theorem message_injective : Function.Injective message :=
  injective_of_read ofMessage?_message

end CaptureError

/-- Errors with equal texts are equal.  The text of a platform failure holds its status code
as eight upper-case hexadecimal digits, whose value is the code modulo the span of a word,
and from it the label and the signed code are recovered, whatever the label is. -/
theorem messages_identify_errors :
    Function.Injective CaptureError.message ∧
    Function.Injective PlatformError.message ∧
    ∀ error : PlatformError, ∃ digits : List Char,
      error.message =
        "Windows " ++ error.call ++ " call failed:\nHRESULT: 0x" ++ String.ofList digits ∧
      digits.length = 8 ∧
      (∀ digit ∈ digits, '0' ≤ digit ∧ digit ≤ '9' ∨ 'A' ≤ digit ∧ digit ≤ 'F') ∧
      (∃ value, Hex.value? 0 digits = some value ∧
        (value : Int) = error.code.toInt % 0x100000000) ∧
      PlatformError.ofMessage? error.message = some error := by
  refine ⟨CaptureError.message_injective, PlatformError.message_injective, ?_⟩
  intro error
  refine ⟨error.digits, rfl, Hex.length_fixed 8 _, ?_, ?_, error.ofMessage?_message⟩
  · intro digit hdigit
    exact Hex.upper_of_mem_fixed hdigit
  · exact ⟨_, error.value_digits, toNat_toUInt32 error.code⟩

/-- A label that ends like a text of its own is told from a shorter one. -/
example :
    let short : PlatformError := ⟨"A", 1⟩
    let long : PlatformError := ⟨"A call failed:\nHRESULT: 0x00000001", 1⟩
    PlatformError.ofMessage? long.message = some long ∧ short.message ≠ long.message := by
  decide +kernel

end DesktopCapture
