import Songbook.Service.Item

/-!
# Fetching a playlist

A playlist is fetched by one request for its name and one request for each page of its items.
Pages are asked for in order, up to the first one that announces no other page or has no items.
Whatever request fails, nothing is kept of what was fetched before. Every request is noted, so that
it can be told which ones were made.
-/

namespace Songbook

namespace Service

/-- A page of items. -/
structure Page where
  items : List Json
  hasNext : Bool

/-- What the service answers to each request; `none` stands for a request that fails. -/
structure Replies where
  /-- Whether the user is known. -/
  knowsUser : Bool := true
  /-- The name of the playlist. -/
  playlistName : Option String
  pages : List (Option Page)

/-- A service that answers no request. -/
def Replies.unreachable : Replies := { knowsUser := false, playlistName := none, pages := [] }

/-- The answer to the request for the page at a position. Behind the pages there is an empty one
that announces no other. -/
def replyAt (pages : List (Option Page)) (k : Nat) : Option Page :=
  pages.getD k (some { items := [], hasNext := false })

/-- The items of a page, without those that are null, if all others can be read. -/
def Page.read (p : Page) : Option (List Item) :=
  (p.items.filter fun j => !j.isNull).mapM readItem

/-- The request that tells who the user is. -/
def authorize (r : Replies) : Except Error Unit :=
  if r.knowsUser then .ok () else .error .service

/-- A request to the service while a playlist is fetched. -/
inductive Asked
  | playlist (i : Identifier)
  | page (i : Identifier) (position : Nat)

/-- Whether a request is answered with a page. -/
def Asked.servesPage (r : Replies) : Asked → Bool
  | playlist _ => false
  | page _ position => (replyAt r.pages position).isSome

/-- A computation that can fail, and that notes every request it makes. -/
abbrev Conversation := ExceptT Error (StateM (List Asked))

/-- What is there, or the failure of the service. -/
def expected {α : Type} : Option α → Except Error α
  | some a => .ok a
  | none => .error .service

/-- Make a request and wait for its answer. -/
def ask {α : Type} (request : Asked) (reply : Option α) : Conversation α := do
  modify (· ++ [request])
  expected reply

/-- The items of the pages from a position on, up to the page that stops the reading. -/
def collect (i : Identifier) : Nat → List (Option Page) → Conversation (List Item)
  | position, [] => ask (.page i position) (some [])
  | position, reply :: rest => do
    let page ← ask (.page i position) reply
    let items ← expected page.read
    if page.hasNext && !items.isEmpty then
      return items ++ (← collect i (position + 1) rest)
    else return items

/-- The playlist with an identifier, by requests that are noted. -/
def converse (r : Replies) (playlist : String) : Conversation Playlist := do
  let i ← (Identifier.read "playlist" playlist).mapError Error.identifier
  let name ← ask (.playlist i) r.playlistName
  let items ← collect i 0 r.pages
  return { name, records := items.map Item.record }

/-- The playlist with an identifier. -/
def fetch (r : Replies) (playlist : String) : Except Error Playlist :=
  ((converse r playlist).run.run []).1

/-- How many pages are answered while a playlist is fetched. -/
def served (r : Replies) (playlist : String) : Nat :=
  ((converse r playlist).run.run []).2.countP (·.servesPage r)

end Service

end Songbook
