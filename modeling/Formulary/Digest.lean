import Formulary.Digest.Sha256
import Formulary.Text.Blank
import Formulary.Text.Hex

/-!
# Digests

An entry is known by the SHA-256 digest of its encoding. A digest is written as 64 hexadecimal
digits in lower case, and read from them in either case, with blanks around them allowed.

* `ofText_toText`: a written digest reads back;
* `toText_injective`: two digests are written alike only if they are the same.
-/

namespace Formulary

/-- The identity of an entry: 32 bytes. -/
structure Digest where
  bytes : Bytes
  length_eq : bytes.length = 32
  deriving DecidableEq

namespace Digest

/-- The number of bytes of a digest. -/
def width : Nat := 32

/-- The digest of some bytes. -/
def of (b : Bytes) : Digest :=
  ⟨Sha256.hash b, Sha256.length_hash b⟩

/-- The digest in hexadecimal, as it is shown and stored. -/
def toText (d : Digest) : String :=
  Text.Hex.encode d.bytes

instance : ToString Digest := ⟨toText⟩

/-- The digest with its kind in front, for messages to a developer. -/
def labelled (d : Digest) : String :=
  "EntryHash(" ++ d.toText ++ ")"

/-- The order of the bytes, which is also the order of the texts. -/
def le (d e : Digest) : Bool :=
  d.bytes ≤ e.bytes

/-- Why a text is no digest. -/
inductive Fault
  | invalidHex (fault : Text.Hex.Fault)
  | invalidLength (found : Nat)
  deriving DecidableEq, Repr

/-- What is said of a text that is no digest. -/
def Fault.message : Fault → String
  | .invalidHex f => "Invalid hex in entry hash: " ++ f.message
  | .invalidLength n =>
    "Entry hash must be " ++ toString width ++ " bytes, got " ++ toString n

/-- The digest made of the given bytes, if there are as many as it takes. -/
def ofBytes (b : Bytes) : Except Fault Digest :=
  if h : b.length = 32 then .ok ⟨b, h⟩ else .error (.invalidLength b.length)

/-- The digest that a text denotes, blanks around it aside. -/
def ofText (s : String) : Except Fault Digest :=
  match Text.Hex.decode (Bytes.ofText (Text.trim s)) with
  | .error f => .error (.invalidHex f)
  | .ok b => ofBytes b

theorem ofBytes_bytes (d : Digest) : ofBytes d.bytes = .ok d := by
  simp [ofBytes, d.length_eq]

theorem toText_injective {d e : Digest} (h : d.toText = e.toText) : d = e := by
  have h := congrArg (fun s => Text.Hex.decode (Bytes.ofText s)) h
  simp only [toText, Text.Hex.decode_encode, Except.ok.injEq] at h
  cases d; cases e; simp_all

/-- The digits of a digest have no blank among them. -/
theorem isBlank_of_mem_encodeByte (b : UInt8) :
    ∀ c ∈ Text.Hex.encodeByte b, Text.isBlank c = false :=
  Text.Hex.forall_mem_encodeByte (by decide) b

/-- A written digest reads back. -/
theorem ofText_toText (d : Digest) : ofText d.toText = .ok d := by
  have hb : ∀ c ∈ d.toText.toList, Text.isBlank c = false := by
    intro c hc
    simp only [toText, Text.Hex.encode, String.toList_ofList, List.mem_flatMap] at hc
    obtain ⟨b, _, hc⟩ := hc
    exact isBlank_of_mem_encodeByte b c hc
  rw [ofText, Text.trim_of_no_blank hb, toText, Text.Hex.decode_encode]
  exact ofBytes_bytes d

end Digest

end Formulary
