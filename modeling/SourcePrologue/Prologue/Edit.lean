import SourcePrologue.Copyright.Notice
import SourcePrologue.FileKind
import SourcePrologue.Licence
import SourcePrologue.Prologue.History

/-!
# Editing prologues

An `Edit` changes a prologue or is refused; a refused edit changes nothing. The larger edits only
ever fill sections that are empty: a licence, a copyright notice for the years of the history, and
what the file's name tells.
-/

namespace SourcePrologue

/-- Something offered as the lines of a section. A single **bare** text is no list of lines. -/
inductive Offer where
  | lines (ls : List Text)
  | bare (text : Text)

/-- Why an edit is refused. -/
inductive EditRefusal where
  | name (refusal : SectionName.Refusal)
  | bareText
  deriving DecidableEq

/-- The wording of a refusal. -/
def EditRefusal.message : EditRefusal → Text
  | name refusal => refusal.message
  | bareText => "lines must be a sequence of strings, not a str"

/-- A property of a prologue other than its sections, with a value for it. -/
inductive Setting where
  | commentChar (value : Text)
  | opensComment (value : Bool)
  | closesComment (value : Bool)
  | style (value : Option Style)
  | writeDefaults (value : Bool)

/-- A change to a prologue. -/
inductive Edit where
  /-- Replace the lines of a section. -/
  | write (name : Option Text) (offer : Offer)
  /-- Remove a section. -/
  | erase (name : Option Text)
  /-- Give a property a value. -/
  | assign (setting : Setting)
  /-- Fill in what the name of the file tells. -/
  | guess (file : Option Text)
  /-- Fill in the licence. -/
  | license (offer : Offer)
  /-- Fill in the copyright notice, with the current year if the history has none. -/
  | creditYears (holder : Option Text) (currentYear : Int)
  /-- Prepare the prologue for the modern layout. -/
  | modernise (file : Option Text) (writeDefaults : Bool)

/-- What an edit that is not refused says of itself: nothing, the lines stored, or whether the
prologue has changed. -/
inductive EditReply where
  | done
  | stored (ls : List Text)
  | changed (yes : Bool)

/-- The outcome of an edit: the prologue after it, the reply or refusal, and the notices. -/
structure Edited where
  prologue : Prologue
  reply : Except EditRefusal EditReply
  notices : List Notice := []

namespace Prologue

/-- A property with a new value. -/
def assign (p : Prologue) : Setting → Prologue
  | .commentChar value => { p with commentChar := value }
  | .opensComment value => { p with opensComment := value }
  | .closesComment value => { p with closesComment := value }
  | .style value => { p with style := value }
  | .writeDefaults value => { p with writeDefaults := value }

/-- The prologue with a section filled from a guess, if it is empty and there is one. -/
def fillIn (p : Prologue) (name : Text) (guess : Option Text) : Prologue :=
  if (p.content name).isEmpty then
    match guess with
    | some line => p.setContent name [line]
    | none => p
  else p

/-- The prologue with the language and the type of the module guessed from a file name. -/
def guess (p : Prologue) : Option Text → Prologue
  | none => p
  | some file =>
    (p.fillIn "Language" (FileKind.language? file)).fillIn "Type of Module"
      (FileKind.moduleType? file)

/-- Whether a section is populated under none of its spellings. -/
def lacks (p : Prologue) (name : Text) : Bool := (p.resolve? name).isNone

/-- The prologue with a licence, the one it has or the one given. -/
def license (p : Prologue) (ls : List Text) : Prologue :=
  if p.lacks "Licence" then p.setContent "Licence" ls else p

/-- The years to be credited: those of the history, or the current one. -/
def creditedYears (p : Prologue) (currentYear : Int) : List Int :=
  if p.years.isEmpty then [currentYear] else p.years

/-- The prologue with a copyright notice, the one it has or one for the years of its history, which
credits the holder given or else the funding bodies. -/
def creditYears (p : Prologue) (holder : Option Text) (currentYear : Int) : Prologue :=
  if p.lacks "Copyright" then
    let credit := match holder with
      | some name => Copyright.Credit.holder name
      | none => .bodies Copyright.fundingBodies
    p.setContent "Copyright"
      (Copyright.notice Copyright.noticeWidth (p.creditedYears currentYear) credit)
  else p

/-- What is to be told when a history without years leaves the notice to the current one. -/
def undated (p : Prologue) (currentYear : Int) : List Notice :=
  if p.lacks "Copyright" && p.years.isEmpty then
    [.undatedHistory ((p.content "Name").headD "prologue") currentYear]
  else []

/-- The prologue prepared for the modern layout. -/
def modernise (p : Prologue) (file : Option Text) (writeDefaults : Bool) : Prologue :=
  { p.guess file with writeDefaults }

/-- Carries out an edit. -/
def edit (p : Prologue) : Edit → Edited
  | .write name offer =>
    match SectionName.require name, offer with
    | .error refusal, _ => ⟨p, .error (.name refusal), []⟩
    | .ok _, .bare _ => ⟨p, .error .bareText, []⟩
    | .ok name, .lines ls => ⟨p.setContent name ls, .ok (.stored (ls.map Text.chomp)), []⟩
  | .erase name =>
    match SectionName.require name with
    | .error refusal => ⟨p, .error (.name refusal), []⟩
    | .ok name => ⟨p.eraseContent name, .ok .done, []⟩
  | .assign setting => ⟨p.assign setting, .ok .done, []⟩
  | .guess file => ⟨p.guess file, .ok .done, []⟩
  | .license offer =>
    let notices := (p.conflict? "Licence").toList
    if p.lacks "Licence" then
      match offer with
      | .lines ls => ⟨p.license ls, .ok (.changed true), notices⟩
      | .bare _ => ⟨p, .error .bareText, notices⟩
    else ⟨p, .ok (.changed false), notices⟩
  | .creditYears holder currentYear =>
    ⟨p.creditYears holder currentYear, .ok (.changed (p.lacks "Copyright")),
      p.undated currentYear⟩
  | .modernise file writeDefaults =>
    ⟨p.modernise file writeDefaults, .ok (.changed true), []⟩

end Prologue

end SourcePrologue
