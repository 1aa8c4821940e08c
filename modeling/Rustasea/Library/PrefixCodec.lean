import Mathlib.Data.Fin.Basic

/-!
# Text codecs

A codec writes values to text and reads them back, or says why it cannot.  The
only law is the round trip; text that no value writes may be rejected.  A text
form has no law: a value it writes may be read back as another one.
-/

/-- A writer and a reader. -/
structure TextForm (Value Text : Type) where
  encode : Value → Text
  decode : Text → Except String Value

/-- The value is read back from its text as it was. -/
def TextForm.ReadsBack {Value Text : Type} (form : TextForm Value Text) (value : Value) : Prop :=
  form.decode (form.encode value) = .ok value

instance {Value Text : Type} [DecidableEq Value] (form : TextForm Value Text) (value : Value) :
    Decidable (form.ReadsBack value) :=
  match isRead : form.decode (form.encode value) with
  | .ok other => decidable_of_iff (other = value) (by simp [TextForm.ReadsBack, isRead])
  | .error _ => isFalse (by simp [TextForm.ReadsBack, isRead])

theorem TextForm.ReadsBack.eq_of_encode_eq {Value Text : Type} {form : TextForm Value Text}
    {first second : Value} (readsFirst : form.ReadsBack first) (readsSecond : form.ReadsBack second)
    (same : form.encode first = form.encode second) : first = second := by
  have readBack : Except.ok first = (.ok second : Except String Value) := by
    rw [← readsFirst, same, readsSecond]
  exact Except.ok.inj readBack

/-- A writer and a reader with `decode ∘ encode = ok`. -/
structure Codec (Value Text : Type) extends TextForm Value Text where
  decode_encode : ∀ value, decode (encode value) = .ok value

namespace Codec

variable {Value Text : Type}

instance : CoeOut (Codec Value Text) (TextForm Value Text) := ⟨toTextForm⟩

attribute [simp] decode_encode

theorem encode_injective (codec : Codec Value Text) : Function.Injective codec.encode := by
  intro first second same
  exact TextForm.ReadsBack.eq_of_encode_eq (codec.decode_encode first)
    (codec.decode_encode second) same

/--
The codec whose texts are the values themselves, plus one text, `none`, that
is not well formed.
-/
def plain (Value : Type) : Codec Value (Option Value) where
  encode := some
  decode
    | some value => .ok value
    | none => .error "expected value at line 1 column 1"
  decode_encode _ := rfl

end Codec

/-!
## Codecs that read a value off the front of a text

A prefix codec writes a value as characters and reads it back whatever
follows.  Such codecs compose, so a record is written field by field; a whole
text is read when nothing follows.
-/

/-- A writer, and a reader that leaves what follows the written value. -/
structure PrefixCodec (Value : Type) where
  write : Value → List Char
  read : List Char → Option (Value × List Char)
  read_write : ∀ value rest, read (write value ++ rest) = some (value, rest)

namespace PrefixCodec

variable {First Second Value : Type}

attribute [simp] read_write

/-- The codec of a type with one value writes nothing. -/
def unit : PrefixCodec Unit where
  write _ := []
  read rest := some ((), rest)
  read_write _ _ := rfl

def pair (first : PrefixCodec First)
    (second : PrefixCodec Second) : PrefixCodec (First × Second) where
  write value := first.write value.1 ++ second.write value.2
  read text :=
    match first.read text with
    | none => none
    | some (firstValue, rest) =>
      match second.read rest with
      | none => none
      | some (secondValue, rest) => some ((firstValue, secondValue), rest)
  read_write := by
    intro value rest
    simp

/-- A codec of the values that another type's values stand for. -/
def imap (codec : PrefixCodec First) (toFirst : Value → First) (ofFirst : First → Option Value)
    (ofFirst_toFirst : ∀ value, ofFirst (toFirst value) = some value) : PrefixCodec Value where
  write value := codec.write (toFirst value)
  read text :=
    match codec.read text with
    | none => none
    | some (first, rest) => (ofFirst first).map fun value => (value, rest)
  read_write := by
    intro value rest
    simp [ofFirst_toFirst]

def option (codec : PrefixCodec Value) : PrefixCodec (Option Value) where
  write
    | none => ['0']
    | some value => '1' :: codec.write value
  read
    | '0' :: rest => some (none, rest)
    | '1' :: rest => (codec.read rest).map fun (value, rest) => (some value, rest)
    | _ => none
  read_write := by
    intro value rest
    cases value <;> simp

def readMarked : List Char → Option (List Char × List Char)
  | '.' :: rest => some ([], rest)
  | '-' :: character :: rest =>
    match readMarked rest with
    | none => none
    | some (characters, rest) => some (character :: characters, rest)
  | _ => none

def writeMarked : List Char → List Char
  | [] => ['.']
  | character :: rest => '-' :: character :: writeMarked rest

theorem readMarked_writeMarked (characters rest : List Char) :
    readMarked (writeMarked characters ++ rest) = some (characters, rest) := by
  induction characters with
  | nil => rfl
  | cons character characters ih => simp [writeMarked, readMarked, ih]

def characters : PrefixCodec (List Char) where
  write := writeMarked
  read := readMarked
  read_write := readMarked_writeMarked

def string : PrefixCodec String :=
  characters.imap String.toList (fun text => some (String.ofList text)) (by simp)

def nat : PrefixCodec Nat :=
  characters.imap (Nat.toDigits 10) (fun digits => some (Nat.ofDigitChars 10 digits 0)) (by simp)

def int : PrefixCodec Int :=
  (pair (option unit) nat).imap
    (fun
      | .ofNat number => (none, number)
      | .negSucc number => (some (), number))
    (fun
      | (none, number) => some (.ofNat number)
      | (some (), number) => some (.negSucc number))
    (fun
      | .ofNat _ => rfl
      | .negSucc _ => rfl)

def fin (bound : Nat) : PrefixCodec (Fin bound) :=
  nat.imap
    Fin.val
    (fun number =>
      if isBelow : number < bound then some ⟨number, isBelow⟩ else none)
    (fun value => by simp)

def toCodec (codec : PrefixCodec Value) : Codec Value String where
  encode value := String.ofList (codec.write value)
  decode text :=
    match codec.read text.toList with
    | some (value, []) => .ok value
    | _ => .error "unexpected text"
  decode_encode := by
    intro value
    have whole := codec.read_write value []
    rw [List.append_nil] at whole
    simp [whole]

end PrefixCodec
