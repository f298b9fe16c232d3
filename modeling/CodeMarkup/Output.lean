import CodeMarkup.Formatter
import CodeMarkup.Text.Encoding

/-!
Written markup. Chunks are written one by one as they are made, as text or in an encoding; a chunk
is written whole or not at all, and the first one written brings the mark of the encoding with it.
-/

namespace CodeMarkup

inductive WriteFailure where
  | nulInName
  | unknownEncoding (name : String)
  | run (f : RunFailure)
  | unencodable (u : Text.Unencodable)

/-- What has been written, and how writing ended. -/
structure Written (α : Type) where
  written : List α
  failure : Option WriteFailure
  last : Progress

namespace Run

def written (r : Run) : Written String :=
  ⟨r.chunks, r.failure.map .run, r.last⟩

/-- Encodes the emissions left in a run; `mark` is still to be written. -/
def encodeFrom (e : Text.Encoding) (r : Run) :
    (mark : List UInt8) → List Emission → Written UInt8
  | _, [] => ⟨[], r.failure.map .run, r.last⟩
  | mark, m :: ms => match e.encode m.chunk.toList with
    | .error u => ⟨[], some (.unencodable u), m.progress⟩
    | .ok bytes =>
      let rest := encodeFrom e r [] ms
      { rest with written := mark ++ bytes ++ rest.written }

def encoded (e : Text.Encoding) (r : Run) : Written UInt8 :=
  r.encodeFrom e e.mark r.emissions

end Run

/-- Markup written as text or in an encoding. -/
inductive Output where
  | text (w : Written String)
  | bytes (w : Written UInt8)

def Output.failure : Output → Option WriteFailure
  | text w => w.failure
  | bytes w => w.failure

def Output.last : Output → Progress
  | text w => w.last
  | bytes w => w.last

/-- Writes the markup of a stream of tokens. Without an encoding it is text; whether there is an
encoding of the name given is found out before any token is taken. -/
def Formatter.write (f : Formatter) (encoding : String) (p : Progress) (tokens : List Token) :
    Output :=
  if encoding = "" then .text (f.stream p tokens).written
  else if '\x00' ∈ encoding.toList then .bytes ⟨[], some .nulInName, p⟩
  else match Text.Encoding.named? encoding with
    | none => .bytes ⟨[], some (.unknownEncoding encoding), p⟩
    | some e => .bytes ((f.stream p tokens).encoded e)

def WriteFailure.message : WriteFailure → String
  | nulInName => "embedded null character"
  | unknownEncoding name => "unknown encoding: " ++ name
  | run f => f.message
  | unencodable u => u.message

end CodeMarkup
