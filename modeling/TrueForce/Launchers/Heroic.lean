import TrueForce.Foundation.Splitting
import TrueForce.Foundation.TextFile
import Mathlib.Data.Char
import Mathlib.Data.List.Lex
import Mathlib.Data.List.ReduceOption
import Mathlib.Data.List.Sort

/-!
# Scraping Heroic's manifests

Heroic keeps its installed games in JSON files.  `scrape_entries` reads them a line at
a time: it counts the braces of the line, takes the value that follows a field's name,
and emits a pair when both fields have been seen.  A stack keeps what was pending
outside the object at hand.
-/

namespace TrueForce.Launchers

open RustText Searching Splitting

/-- The value of the first string field of that name on a line. -/
def scrapeStrField (line key : Text) : Option Text := do
  let rest ← findAfter ('"' :: (key ++ ['"'])) line
  let (_, rest) ← splitOnce ':' rest
  let rest ← ['"'].isPrefixOf? (trimStart rest)
  let (value, _) ← splitOnce '"' rest
  pure value

structure Entry where
  appName : Text
  title : Text
  deriving DecidableEq, Repr

/-- The fields seen since the last pair. -/
structure Pending where
  id : Option Text
  title : Option Text
  deriving DecidableEq, Repr

namespace Pending

def empty : Pending := { id := none, title := none }

end Pending

structure Scraper where
  pending : Pending
  stack : List Pending
  entries : List Entry
  deriving DecidableEq, Repr

def appNameKey : Text := "app_name".toList

def appNameCamelKey : Text := "appName".toList

def titleKey : Text := "title".toList

namespace Scraper

def new : Scraper := { pending := .empty, stack := [], entries := [] }

def push (scraper : Scraper) : Scraper :=
  { scraper with pending := .empty, stack := scraper.pending :: scraper.stack }

def pop (scraper : Scraper) : Scraper :=
  match scraper.stack with
  | [] => scraper
  | pending :: stack => { scraper with pending, stack }

def brace (scraper : Scraper) (char : Char) : Scraper :=
  if char = '\x7b' then scraper.push
  else if char = '\x7d' then scraper.pop
  else scraper

/-- Keep a value of the line, when there is one. -/
def keepId (scraper : Scraper) (id : Option Text) : Scraper :=
  { scraper with pending := { scraper.pending with id := id.or scraper.pending.id } }

def keepTitle (scraper : Scraper) (title : Option Text) : Scraper :=
  { scraper with pending := { scraper.pending with title := title.or scraper.pending.title } }

def emit (scraper : Scraper) : Scraper :=
  match scraper.pending with
  | { id := some appName, title := some title } =>
      { scraper with pending := .empty, entries := scraper.entries ++ [{ appName, title }] }
  | _ => scraper

def scrapeLine (scraper : Scraper) (line : Text) : Scraper :=
  let scraper := line.foldl brace scraper
  let scraper := scraper.keepId
    ((scrapeStrField line appNameKey).or (scrapeStrField line appNameCamelKey))
  let scraper := scraper.keepTitle (scrapeStrField line titleKey)
  scraper.emit

end Scraper

def scrapeEntries (content : Text) : List Entry :=
  ((lines content).foldl Scraper.scrapeLine .new).entries

/-- The value of the first line with a string field of that name. -/
def scrapeField (content key : Text) : Option Text :=
  (lines content).findSome? fun line => scrapeStrField line key

structure DiscoveredGame where
  name : Text
  winePrefix : Text
  deriving DecidableEq, Repr

def winePrefixKey : Text := "winePrefix".toList

/-- The games of a manifest whose configuration names a Wine directory. -/
def discovered (config : Text → Option Text) (content : Text) : List DiscoveredGame :=
  (scrapeEntries content).filterMap fun entry => do
    let configContent ← config entry.appName
    let winePrefix ← scrapeField configContent winePrefixKey
    pure { name := entry.title, winePrefix }

/-- The games of the manifests that can be read, by their names in lower case. -/
def heroicGames (toLowercase : Text → Text) (config : Text → Option Text)
    (manifests : List (Option Text)) : List DiscoveredGame :=
  (manifests.reduceOption.flatMap (discovered config)).mergeSort fun one other =>
    toLowercase one.name ≤ toLowercase other.name

theorem mem_heroicGames {toLowercase : Text → Text} {config : Text → Option Text}
    {manifests : List (Option Text)} {game : DiscoveredGame} :
    game ∈ heroicGames toLowercase config manifests ↔
      ∃ content, some content ∈ manifests ∧ ∃ entry ∈ scrapeEntries content,
        ∃ configContent, config entry.appName = some configContent ∧
          scrapeField configContent winePrefixKey = some game.winePrefix ∧
            entry.title = game.name := by
  obtain ⟨name, winePrefix⟩ := game
  simp only [heroicGames, List.mem_mergeSort, List.mem_flatMap, List.reduceOption_mem_iff,
    discovered, List.mem_filterMap, Option.bind_eq_bind, Option.bind_eq_some_iff,
    Option.pure_def, Option.some.injEq, DiscoveredGame.mk.injEq]
  refine exists_congr fun content => and_congr_right fun _ => exists_congr fun entry =>
    and_congr_right fun _ => exists_congr fun configContent => and_congr_right fun _ => ?_
  constructor
  · rintro ⟨directory, found, same, rfl⟩
    exact ⟨found, same⟩
  · rintro ⟨found, same⟩
    exact ⟨winePrefix, found, same, rfl⟩

end TrueForce.Launchers
