/-!
# Reading bytes as UTF-8

`decode?` refuses malformed bytes.  `decodeLossy` puts U+FFFD in place of each
maximal ill-formed part: the longest start of a character that could still have
been completed, or else a single byte.
-/

namespace HangulConsole
namespace Text

def decode? (bytes : List UInt8) : Option String :=
  String.fromUTF8? ⟨bytes.toArray⟩

def byteCount (text : List Char) : Nat :=
  text.foldr (fun c count => c.utf8Size + count) 0

def encode (text : String) : List UInt8 :=
  text.toUTF8.data.toList

theorem decode?_encode (text : String) : decode? (encode text) = some text := by
  unfold decode? encode String.fromUTF8?
  exact dif_pos text.isValidUTF8

theorem encode_inj {text text' : String} : encode text = encode text' ↔ text = text' := by
  constructor
  · intro same
    exact Option.some.inj (by rw [← decode?_encode text, same, decode?_encode])
  · intro same
    rw [same]

theorem encode_eq_flatMap (text : String) :
    encode text = text.toList.flatMap String.utf8EncodeChar := by
  have bytes := String.toByteArray_ofList (l := text.toList)
  rw [String.ofList_toList] at bytes
  rw [encode, String.toUTF8_eq_toByteArray, bytes, List.utf8Encode, List.toList_data_toByteArray]

theorem encode_append (text text' : String) :
    encode (text ++ text') = encode text ++ encode text' := by
  rw [encode_eq_flatMap, String.toList_append, List.flatMap_append, ← encode_eq_flatMap,
    ← encode_eq_flatMap]

def replacement : Char := Char.ofNat 0xfffd

def isContinuation (byte : UInt8) : Bool :=
  0x80 ≤ byte.toNat && byte.toNat ≤ 0xbf

/-- How many continuation bytes a leading byte asks for, and the range of the first of them. -/
def continuations? (lead : UInt8) : Option (Nat × Nat × Nat) :=
  let n := lead.toNat
  if 0xc2 ≤ n && n ≤ 0xdf then some (1, 0x80, 0xbf)
  else if n == 0xe0 then some (2, 0xa0, 0xbf)
  else if n == 0xed then some (2, 0x80, 0x9f)
  else if 0xe1 ≤ n && n ≤ 0xef then some (2, 0x80, 0xbf)
  else if n == 0xf0 then some (3, 0x90, 0xbf)
  else if n == 0xf4 then some (3, 0x80, 0x8f)
  else if 0xf1 ≤ n && n ≤ 0xf3 then some (3, 0x80, 0xbf)
  else none

/-- The character that starts with `lead`: the longest start that is well-formed, its code point if
it is complete, and how many bytes after `lead` belong to it. -/
def leadingChar (lead : UInt8) (rest : List UInt8) : Option Char × Nat :=
  if lead.toNat < 0x80 then (some (Char.ofNat lead.toNat), 0)
  else
    match continuations? lead with
    | none => (none, 0)
    | some (count, low, high) =>
        match rest with
        | [] => (none, 0)
        | first :: more =>
            if low ≤ first.toNat && first.toNat ≤ high then
              let tail := (more.take (count - 1)).takeWhile isContinuation
              if tail.length = count - 1 then
                let start := lead.toNat % (if count = 1 then 32 else if count = 2 then 16 else 8)
                let code := (first :: tail).foldl (fun n byte => n * 64 + byte.toNat % 64) start
                (some (Char.ofNat code), count)
              else (none, 1 + tail.length)
            else (none, 0)

def decodeLossyChars : List UInt8 -> List Char
  | [] => []
  | lead :: rest =>
      let (char?, used) := leadingChar lead rest
      char?.getD replacement :: decodeLossyChars (rest.drop used)
  termination_by bytes => bytes.length
  decreasing_by simp only [List.length_cons, List.length_drop]; omega

def decodeLossy (bytes : List UInt8) : String :=
  String.ofList (decodeLossyChars bytes)

end Text
end HangulConsole
