import SourcePrologue.Command.Session
import SourcePrologue.Prologue.Edit

/-!
# Adding licences

The command `prolic` gives every prologue a licence and a copyright notice unless it has them. A
file is written over only if all of its prologues are modern.
-/

namespace SourcePrologue.Command.License

/-- What the command is asked to do. -/
structure Settings where
  holder : Option Arguments.Given := none
  inPlace : Bool := false
  verbose : Bool := false

/-- The options of the command. -/
def flags : List (Arguments.Flag Settings) := [
  ⟨["-h", "--help"], .help⟩,
  ⟨["--copyright"], .value fun given s => { s with holder := some given }⟩,
  ⟨["--inplace"], .switch fun s => { s with inPlace := true }⟩,
  ⟨["--verbose", "-v"], .switch fun s => { s with verbose := true }⟩]

/-- A prologue with a licence and a copyright notice. -/
def complete (holder : Option Text) (currentYear : Int) (p : Prologue) : Prologue :=
  (p.license generalPublicLicence).creditYears holder currentYear

/-- What is to be told while a prologue is completed. -/
def completeNotices (currentYear : Int) (p : Prologue) : List Notice :=
  (p.conflict? "Licence").toList ++ (p.license generalPublicLicence).undated currentYear

/-- Whether a prologue lacks anything. -/
def isIncomplete (p : Prologue) : Bool := p.lacks "Licence" || p.lacks "Copyright"

/-- The holder to be credited, if one is named. -/
def Settings.holder? (settings : Settings) : Option Text := settings.holder.bind (·.value?)

/-- Whether a prologue waits for the name of a holder that the option for it does not give. -/
def Settings.leaveOpen (settings : Settings) (p : Prologue) : Bool :=
  settings.holder == some .nothing && p.lacks "Copyright"

/-- Completes the prologues of one file, unless one of them waits for a holder's name. -/
def licenseFile (settings : Settings) (currentYear : Int) (s : Session) (path : Path) :
    Except Interruption Session :=
  s.withFile path fun s parts =>
    if settings.inPlace && !Source.isModern parts then
      let styles := Source.styleNames parts
      .ok (s.report .warning (Text.ofString "Not rewriting " ++ path.text
        ++ Text.ofString ": prologue styles "
        ++ if styles.isEmpty then Text.ofString "none" else Text.join (Text.ofString ", ") styles))
    else
      let found := Source.prologues parts
      match found.findIdx? settings.leaveOpen with
      | some i =>
        .error ⟨.valueless "strip",
          s.tell ((found.take (i + 1)).flatMap (completeNotices currentYear))⟩
      | none =>
        let completed := Source.mapPrologues (complete settings.holder? currentYear) parts
        let s := s.tell (found.flatMap (completeNotices currentYear))
        let s := s.tell (Source.renderNotices completed)
        let text := Source.render completed
        if !settings.inPlace then .ok (s.print text)
        else if found.any isIncomplete then do
          let s ← s.save path text
          .ok (s.report .info (Text.ofString "Updated " ++ path.text))
        else
          .ok (s.report .info (path.text ++ Text.ofString " already has licence and copyright"))

/-- Runs the command. -/
def run (currentYear : Int) (s : Session) (settings : Settings) (paths : List Path) :
    Except Interruption Session :=
  paths.foldlM (licenseFile settings currentYear) s

end SourcePrologue.Command.License
