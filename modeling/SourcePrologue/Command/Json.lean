import SourcePrologue.Text.Quoted

/-!
# JSON documents

The documents that the listing of prologues is printed as. Lists and objects are laid out one entry
a line, each level two spaces further to the right. Characters stand for themselves except quotation
marks, backslashes and controls. A text with stray bytes has no written form.
-/

namespace SourcePrologue

/-- A JSON document. -/
inductive Json where
  | null
  | bool (value : Bool)
  | number (value : Int)
  | string (text : Text)
  | list (values : List Json)
  | object (fields : List (Text × Json))

namespace Json

/-- A character inside a JSON string. -/
def escapeGlyph : Glyph → Text
  | .char c =>
    if c = '\x22' then Text.ofString "\\\x22"
    else if c = '\\' then Text.ofString "\\\\"
    else if c = '\x08' then Text.ofString "\\b"
    else if c = '\t' then Text.ofString "\\t"
    else if c = '\n' then Text.ofString "\\n"
    else if c = '\x0c' then Text.ofString "\\f"
    else if c = '\r' then Text.ofString "\\r"
    else if c.toNat < 0x20 then Text.ofString "\\u" ++ Text.hexDigits 4 c.toNat
    else [.char c]
  | .stray high => [.stray high]

/-- A text as a JSON string. -/
def writeString (t : Text) : Text :=
  Text.ofChar '\x22' ++ t.flatMap escapeGlyph ++ Text.ofChar '\x22'

/-- The start of a line at a level of nesting. -/
def lineStart (level : Nat) : Text := Text.newline :: List.replicate (2 * level) (.char ' ')

/-- Written entries between brackets, one a line; nothing but the brackets if there are none. -/
def bracket (left right : Char) (level : Nat) (entries : List Text) : Text :=
  if entries.isEmpty then [.char left, .char right]
  else
    Text.ofChar left
      ++ Text.join (Text.ofChar ',') (entries.map (lineStart (level + 1) ++ ·))
      ++ lineStart level ++ Text.ofChar right

mutual

/-- A document as it is printed at a level of nesting. -/
def write (level : Nat) : Json → Text
  | null => Text.ofString "null"
  | bool value => Text.ofString (if value then "true" else "false")
  | number value => Text.ofInt value
  | string text => writeString text
  | list values => bracket '[' ']' level (writeList (level + 1) values)
  | object fields => bracket '\x7b' '\x7d' level (writeFields (level + 1) fields)

/-- The entries of a list as they are printed. -/
def writeList (level : Nat) : List Json → List Text
  | [] => []
  | value :: values => write level value :: writeList level values

/-- The fields of an object as they are printed. -/
def writeFields (level : Nat) : List (Text × Json) → List Text
  | [] => []
  | (name, value) :: fields =>
    (writeString name ++ Text.ofString ": " ++ write level value) :: writeFields level fields

end

mutual

/-- Whether no text in a document has a stray byte. -/
def isWritable : Json → Bool
  | string text => text.all Glyph.isChar
  | list values => allWritable values
  | object fields => allFieldsWritable fields
  | _ => true

/-- Whether no text in a list of documents has a stray byte. -/
def allWritable : List Json → Bool
  | [] => true
  | value :: values => isWritable value && allWritable values

/-- Whether no text in a list of fields has a stray byte. -/
def allFieldsWritable : List (Text × Json) → Bool
  | [] => true
  | (name, value) :: fields => name.all Glyph.isChar && isWritable value && allFieldsWritable fields

end

end Json

end SourcePrologue
