import Pagewise.Paging.Fetcher

/-!
A run as a recursion: fetch with the current token, yield the answer, and go on with the token of the
page until the end behavior says stop or a fetch fails.
-/
namespace Pagewise

variable {σ Req E Page C : Type} [Cursor C] [CursorRequest Req C] [CursorResponse Page C]

/-- Everything that a run yields from the token `used` on, and the state it leaves. -/
def runFrom (F : Fetcher σ Req E Page) (behavior : EndBehavior) (initial : Req) (used : Option C)
    (s : σ) : List (Except E Page) × σ :=
  match h : (F.fetch (CursorRequest.withCursor initial used) s).1.value with
  | .error e => ([.error e], (F.fetch (CursorRequest.withCursor initial used) s).2)
  | .ok page =>
    have := F.left_fetch _ s page h
    match behavior.decide used (CursorResponse.nextCursor page)
        (CursorResponse.memberFlag page) with
    | .stop => ([.ok page], (F.fetch (CursorRequest.withCursor initial used) s).2)
    | .proceed =>
      let rest := runFrom F behavior initial (CursorResponse.nextCursor page)
        (F.fetch (CursorRequest.withCursor initial used) s).2
      (.ok page :: rest.1, rest.2)
termination_by F.left s

def run (F : Fetcher σ Req E Page) (behavior : EndBehavior) (initial : Req) (s : σ) :
    List (Except E Page) × σ :=
  runFrom F behavior initial (CursorRequest.cursor initial) s

end Pagewise
