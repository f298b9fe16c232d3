import CodeMarkup.Gutter
import CodeMarkup.Session

/-!
Runs: the chunks of markup made from a stream of tokens, in order, each with the progress at which
it was made, and how the run ended. A consumer may stop after any chunk.
-/

namespace CodeMarkup

/-- A chunk of markup and the progress at which it was made. -/
structure Emission where
  chunk : String
  progress : Progress

/-- Why a stream of tokens has no markup: a token has none, or a line number is not written. -/
inductive RunFailure where
  | span (f : SpanFailure)
  | lineNumber (e : LongNumber)

def RunFailure.message : RunFailure → String
  | span f => f.unknownKind.message
  | lineNumber e => e.message

/-- What came of a stream of tokens. -/
structure Run where
  emissions : List Emission
  failure : Option RunFailure
  last : Progress

namespace Run

def chunks (r : Run) : List String :=
  r.emissions.map Emission.chunk

/-- The whole markup of a run, or the failure that ended it. -/
def text (r : Run) : Except RunFailure String :=
  match r.failure with
  | none => .ok (String.join r.chunks)
  | some f => .error f

/-- The run with one more emission in front. -/
def cons (e : Emission) (r : Run) : Run :=
  { r with emissions := e :: r.emissions }

@[simp] theorem chunks_cons (e : Emission) (r : Run) :
    (r.cons e).chunks = e.chunk :: r.chunks := rfl

theorem text_eq_ok_iff {r : Run} {s : String} :
    r.text = .ok s ↔ r.failure = none ∧ String.join r.chunks = s := by
  unfold text
  cases r.failure <;> simp

/-- The run with one more chunk at its end, unless it failed. -/
def close (r : Run) (chunk : String) : Run :=
  match r.failure with
  | none => { r with emissions := r.emissions ++ [⟨chunk, r.last⟩] }
  | some _ => r

/-- The run that makes all its chunks at once. -/
def atOnce (chunks : List String) (p : Progress) : Run :=
  ⟨chunks.map (⟨·, p⟩), none, p⟩

def fail (f : RunFailure) (p : Progress) : Run :=
  ⟨[], some f, p⟩

/-- The part of a run that started at `start` which a consumer of at most `limit` chunks sees. -/
def limit (start : Progress) (n : Nat) (r : Run) : Run :=
  if r.emissions.length < n then r
  else
    let seen := r.emissions.take n
    ⟨seen, none, (seen.getLast?.map Emission.progress).getD start⟩

/-- The run of the tokens alone, one chunk for each. It ends at the first token without markup. -/
def ofTokens (rules : SpanRules) (p : Progress) : List Token → Run
  | [] => ⟨[], none, p⟩
  | token :: tokens =>
    match rules.renderNext p.toSession token with
    | (.ok chunk, s) =>
      let p : Progress := ⟨s, p.pulled + 1⟩
      (ofTokens rules p tokens).cons ⟨chunk, p⟩
    | (.error f, s) => fail (.span f) ⟨s, p.pulled + 1⟩

end Run

end CodeMarkup
