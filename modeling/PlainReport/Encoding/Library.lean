import PlainReport.Encoding.Unicode

/-!
# Encodings

An encoding has a name and a way to read bytes as text.  Which encodings there are
and what labels they have is up to an encoding library.  Reports ask two things of
it, UTF-8 and the encoding of a label.

So a library is an argument of every definition that reads a label, and nothing is
assumed of it.
-/

namespace PlainReport

/-- A way to read bytes as text. -/
structure Encoding where
  /-- The name. -/
  name : Text
  /-- The text of some bytes, without the byte order mark of the encoding at their front.
  There is none if the bytes are malformed. -/
  decode? : Bytes → Option Text

/-- The encodings that can be asked for. -/
class EncodingLibrary where
  /-- The encoding that is used if none is asked for. -/
  utf8 : Encoding
  /-- The encoding of a label that has no blanks around it. -/
  ofLabel? : Text → Option Encoding

end PlainReport
