import PlainReport.Command.Words
import PlainReport.Encoding.Builtin

/-!
# The program

The program reads its command line and carries out what that asks for, with the
encodings that it knows.
-/

namespace PlainReport.Command

instance : EncodingLibrary := Encoding.builtin

variable {m : Type → Type} [Monad m]

/-- Carries out a command line.  A wrong command line touches no file. -/
def run (a : FileAccess m) (environment : Option Text) (words : List Text) : m Exit :=
  match Invocation.ofWords environment words with
  | .ok i => i.run a
  | .error .help => return ⟨0, helpText, [], none⟩
  | .error .version => return ⟨0, versionText, [], none⟩
  | .error (.misuse misuse) => return ⟨2, [], [], some misuse.message⟩

end PlainReport.Command
