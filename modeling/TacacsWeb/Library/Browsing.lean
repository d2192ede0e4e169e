import Mathlib.Data.List.Sort
import TacacsWeb.Library.Run

/-!
# Browsing a growing table

Rows under numbers of their own, read newest first in pages of an offset and a size. A browser that
keeps the pages it has read goes from page to page while others add rows, so what it has not been
shown yet moves on to later pages, and is never passed by. It may stop where a page reaches the
count that came with it, if no row was added between that count and that page.
-/

namespace TacacsWeb.Library.Browsing

variable {Row Filter : Type}

/-! ## Windows -/

/-- `ORDER BY number DESC`. -/
def newestFirst (number : Row → Nat) (rows : List Row) : List Row :=
  rows.insertionSort fun first second => number second ≤ number first

/-- `LIMIT size OFFSET offset`. -/
def window (size offset : Nat) (rows : List Row) : List Row := (rows.drop offset).take size

/-- How many rows are newer than a number. -/
def rank (number : Row → Nat) (mark : Nat) (rows : List Row) : Nat :=
  rows.countP fun other => mark < number other

section Windows

variable {number : Row → Nat} {rows : List Row} {row : Row}

end Windows

/-- More rows only move a row on. -/
theorem rank_append (number : Row → Nat) (mark : Nat) (rows more : List Row) :
    rank number mark rows ≤ rank number mark (rows ++ more) := by
  rw [rank, rank, List.countP_append]
  omega

/-- A window, with the count of all rows that were selected shortly before. -/
structure Page (Row : Type) where
  /-- The count. -/
  total : Nat
  /-- The size that was asked for. -/
  limit : Nat
  /-- Where the window begins. -/
  offset : Nat
  /-- The rows of the window. -/
  entries : List Row

/-- The page of the rows that a condition selects: counted in one state of the table, and read in
a later one. -/
def readPage (number : Row → Nat) (selected : Row → Bool) (limit offset : Nat)
    (counted stored : List Row) : Page Row where
  total := (counted.filter selected).length
  limit := limit
  offset := offset
  entries := window limit offset (newestFirst number (stored.filter selected))

/-- What is browsed: rows under numbers, the choice that a filter makes, the size of a page, and
how a page is fetched. -/
structure Listing (Filter Row : Type) where
  /-- The primary key. -/
  number : Row → Nat
  /-- What a filter selects. -/
  selects : Filter → Row → Bool
  /-- How many rows a page has. -/
  size : Nat
  /-- The page at an offset, if the answer is one. -/
  fetch : Filter → Nat → List Row → List Row → Option (Page Row)
  /-- It is the page of the rows that the filter selects. -/
  fetched : ∀ filter offset counted stored page, fetch filter offset counted stored = some page →
    page = readPage number (selects filter) size offset counted stored

/-- A browser, with the pages that it keeps, and the table that it reads. -/
structure Browser (Filter Row : Type) where
  /-- The table. -/
  table : List Row
  /-- The filter. -/
  filter : Filter
  /-- Where the page begins that is asked for. -/
  offset : Nat
  /-- The pages that have been read, under what was asked for. -/
  cache : Filter → Nat → Option (Page Row)
  /-- What was on the screen before. -/
  previous : Option (Page Row)

/-- The page that is asked for, once it has been read. -/
def Browser.shown (state : Browser Filter Row) : Option (Page Row) :=
  state.cache state.filter state.offset

/-- What is on the screen: while a page is awaited, what was there before. -/
def Browser.data (state : Browser Filter Row) : Option (Page Row) := state.shown.or state.previous

/-- Ask for another page. -/
def Browser.ask (state : Browser Filter Row) (filter : Filter) (offset : Nat) :
    Browser Filter Row :=
  { state with filter := filter, offset := offset, previous := state.data }

/-- What can happen. -/
inductive Event (Filter Row : Type) where
  /-- Others add rows. -/
  | grow (rows : List Row)
  /-- Others change rows. -/
  | touch (change : Row → Row)
  /-- The page asked for is read; others have added rows between its count and its rows. -/
  | load (between : List Row)
  /-- A page that is not on the screen is forgotten. -/
  | forget (filter : Filter) (offset : Nat)
  /-- Another filter is chosen. -/
  | choose (filter : Filter)
  /-- Back to newer rows. -/
  | newer
  /-- On to older rows. -/
  | older

/-- A change leaves the numbers of the rows, and what filters say of them. -/
def Listing.Keeps (listing : Listing Filter Row) (change : Row → Row) : Prop :=
  ∀ row, listing.number (change row) = listing.number row ∧
    ∀ filter, listing.selects filter (change row) = listing.selects filter row

/-- The rows that are selected. -/
def Listing.chosen (listing : Listing Filter Row) (filter : Filter) (table : List Row) : List Row :=
  table.filter (listing.selects filter)

/-- What more rows do to the selected ones. -/
theorem chosen_append (listing : Listing Filter Row) (filter : Filter) (table more : List Row) :
    listing.chosen filter (table ++ more) =
      listing.chosen filter table ++ listing.chosen filter more := List.filter_append ..

/-- The page that is asked for is on the screen and has the row of a number. -/
def Listing.Shows (listing : Listing Filter Row) (mark : Nat) (state : Browser Filter Row) : Prop :=
  ∃ page, state.shown = some page ∧ ∃ row ∈ page.entries, listing.number row = mark

/-- A page reaches its count. -/
def Page.Reaches (page : Page Row) : Prop := page.total ≤ page.offset + page.entries.length

/-- The page that is asked for is on the screen and reaches its count. -/
def Browser.Ended (state : Browser Filter Row) : Prop :=
  ∃ page, state.shown = some page ∧ page.Reaches

/-- A selected row comes on a later page than the browser has read so far. -/
structure Listing.Ahead (listing : Listing Filter Row) (filter : Filter) (mark : Nat)
    (state : Browser Filter Row) : Prop where
  /-- The filter has not been changed. -/
  unchanged : state.filter = filter
  /-- The row is selected. -/
  listed : ∃ row ∈ listing.chosen filter state.table, listing.number row = mark
  /-- The row is not on a page before the one that is asked for. -/
  reached : state.offset ≤ rank listing.number mark (listing.chosen filter state.table)
  /-- The row is not on a page that has been read. -/
  passed : ∀ offset page, state.cache filter offset = some page →
    offset + listing.size ≤ rank listing.number mark (listing.chosen filter state.table)
  /-- No page that has been read reaches its count. -/
  unended : ∀ offset page, state.cache filter offset = some page → ¬page.Reaches

section Changes

variable {listing : Listing Filter Row} {filter : Filter} {mark : Nat} {change : Row → Row}
  {state : Browser Filter Row}

/-- What a change does to them. -/
theorem chosen_map (keeps : listing.Keeps change) (table : List Row) :
    listing.chosen filter (table.map change) = (listing.chosen filter table).map change := by
  have same : listing.selects filter ∘ change = listing.selects filter :=
    funext fun row => (keeps row).2 filter
  rw [Listing.chosen, Listing.chosen, List.filter_map, same]

/-- A change leaves the ranks. -/
theorem rank_map (keeps : listing.Keeps change) (rows : List Row) :
    rank listing.number mark (rows.map change) = rank listing.number mark rows := by
  rw [rank, rank, List.countP_map]
  refine List.countP_congr fun row _ => ?_
  simp only [Function.comp_apply, (keeps row).1]

/-- More rows leave a row ahead. -/
theorem Listing.Ahead.grow (before : listing.Ahead filter mark state) (rows : List Row) :
    listing.Ahead filter mark { state with table := state.table ++ rows } := by
  have further := rank_append listing.number mark (listing.chosen filter state.table)
    (listing.chosen filter rows)
  rw [← chosen_append] at further
  obtain ⟨row, present, same⟩ := before.listed
  refine ⟨before.unchanged, ⟨row, ?_, same⟩, before.reached.trans further, ?_, before.unended⟩
  · rw [chosen_append]
    exact List.mem_append_left _ present
  · exact fun offset page kept => (before.passed offset page kept).trans further

/-- Changes that keep the numbers and the choices leave a row ahead. -/
theorem Listing.Ahead.touch (before : listing.Ahead filter mark state)
    (keeps : listing.Keeps change) :
    listing.Ahead filter mark { state with table := state.table.map change } := by
  have ranked : rank listing.number mark (listing.chosen filter (state.table.map change)) =
      rank listing.number mark (listing.chosen filter state.table) := by
    rw [chosen_map keeps, rank_map keeps]
  obtain ⟨row, present, same⟩ := before.listed
  refine ⟨before.unchanged, ⟨change row, ?_, ?_⟩, ?_, fun offset page kept => ?_, before.unended⟩
  · rw [chosen_map keeps]
    exact List.mem_map_of_mem present
  · rw [(keeps row).1, same]
  · rw [ranked]
    exact before.reached
  · rw [ranked]
    exact before.passed offset page kept

/-- Asking for another page that is not too far leaves a row ahead. -/
theorem Listing.Ahead.ask {offset : Nat} (before : listing.Ahead filter mark state)
    (near : offset ≤ rank listing.number mark (listing.chosen filter state.table)) :
    listing.Ahead filter mark (state.ask state.filter offset) :=
  ⟨before.unchanged, before.listed, near, before.passed, before.unended⟩

end Changes

variable [DecidableEq Filter]

/-- Keep a page, or forget one. -/
def Browser.keep (state : Browser Filter Row) (filter : Filter) (offset : Nat)
    (entry : Option (Page Row)) : Browser Filter Row :=
  { state with
    cache := fun other place =>
      if other = filter ∧ place = offset then entry else state.cache other place }

/-- The buttons are only there under a page of a listing with rows, and one is disabled on the first
page, the other where the page reaches the count. -/
def Listing.step (listing : Listing Filter Row) : Step (Browser Filter Row) (Event Filter Row)
  | state, .grow rows =>
    if ((state.table ++ rows).map listing.number).Nodup then
      some { state with table := state.table ++ rows }
    else none
  | state, .touch change => some { state with table := state.table.map change }
  | state, .load between =>
    if ((state.table ++ between).map listing.number).Nodup then
      (listing.fetch state.filter state.offset state.table (state.table ++ between)).map fun page =>
        { state with table := state.table ++ between }.keep state.filter state.offset (some page)
    else none
  | state, .forget filter offset =>
    if filter = state.filter ∧ offset = state.offset then none
    else some (state.keep filter offset none)
  | state, .choose filter => some (state.ask filter 0)
  | state, .newer =>
    state.data.bind fun page =>
      if 0 < page.total ∧ state.offset ≠ 0 then
        some (state.ask state.filter (state.offset - listing.size))
      else none
  | state, .older =>
    state.data.bind fun page =>
      if 0 < page.total ∧ page.offset + page.entries.length < page.total then
        some (state.ask state.filter (state.offset + listing.size))
      else none

section Walk

variable {listing : Listing Filter Row} {filter : Filter} {mark : Nat}
  {state next : Browser Filter Row}

end Walk

end TacacsWeb.Library.Browsing
