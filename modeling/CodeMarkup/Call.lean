import CodeMarkup.Output

/-!
Calls on a formatter. One formatter serves many calls, one after the other. What it keeps between
them is the name of the encoding that was set last; the kinds that a call brings into being and the
records that it logs are left behind in the session.
-/

namespace CodeMarkup

namespace Formatter

/-- What can be asked of a formatter. Markup is made whole, chunk by chunk in the configured way or
without line numbers, in a numbered layout or written in an encoding that is set before. -/
inductive Method where
  | render
  | stream
  | flat
  | numbered (layout : Value)
  | format (encoding : String)

structure Call where
  method : Method
  tokens : List Token

inductive CallFailure where
  | layout (e : InvalidLayout)
  | write (e : WriteFailure)

end Formatter

/-- What comes back from a call: texts or bytes, why there is no more of them, and how many tokens
have been taken. -/
structure Answer where
  texts : List String := []
  bytes : List UInt8 := []
  failure : Option Formatter.CallFailure := none
  pulled : Nat := 0

namespace Answer

/-- The chunks of a run. -/
def ofChunks (r : Run) : Answer where
  texts := r.chunks
  failure := r.failure.map fun e => .write (.run e)
  pulled := r.last.pulled

/-- The whole markup of a run, of which nothing is left if the run failed. -/
def ofWhole (r : Run) : Answer where
  texts := if r.failure.isSome then [] else [String.join r.chunks]
  failure := r.failure.map fun e => .write (.run e)
  pulled := r.last.pulled

def ofOutput : Output → Answer
  | .text w => { texts := w.written, failure := w.failure.map .write, pulled := w.last.pulled }
  | .bytes w => { bytes := w.written, failure := w.failure.map .write, pulled := w.last.pulled }

end Answer

/-- A formatter in use, with the name of the encoding that was set last. -/
structure Instance where
  formatter : Formatter
  encoding : String := ""

namespace Instance

/-- A formatter that has just been made, for which no encoding is set. -/
def new (f : Formatter) : Instance := { formatter := f }

/-- Makes a call: the answer, and the instance and the session after it. -/
def perform (i : Instance) (s : Session) (c : Formatter.Call) : Answer × Instance × Session :=
  match c.method with
  | .render =>
    let run := i.formatter.stream s.begin c.tokens
    (.ofWhole run, i, run.last.toSession)
  | .stream =>
    let run := i.formatter.stream s.begin c.tokens
    (.ofChunks run, i, run.last.toSession)
  | .flat =>
    let run := i.formatter.flat s.begin c.tokens
    (.ofChunks run, i, run.last.toSession)
  | .numbered layout => match i.formatter.chooseLayout layout with
    | .error e => ({ failure := some (.layout e) }, i, s)
    | .ok l =>
      let run := i.formatter.buffered l s.begin c.tokens
      (.ofChunks run, i, run.last.toSession)
  | .format encoding =>
    let i : Instance := { i with encoding }
    let output := i.formatter.write i.encoding s.begin c.tokens
    (.ofOutput output, i, output.last.toSession)

/-- The answers to calls that are made one after the other. -/
def answers (i : Instance) (s : Session) : List Formatter.Call → List Answer
  | [] => []
  | c :: cs => match i.perform s c with
    | (answer, i, s) => answer :: i.answers s cs

/-- The instance and the session once calls have been made. -/
def after (i : Instance) (s : Session) : List Formatter.Call → Instance × Session
  | [] => (i, s)
  | c :: cs => match i.perform s c with
    | (_, i, s) => i.after s cs

end Instance

end CodeMarkup
