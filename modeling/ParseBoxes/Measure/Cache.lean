import ParseBoxes.Dict
import ParseBoxes.Measure.Text

/-!
# Remembered extents

A cache in front of a slow measurer.  Every request is stamped; an extent that is remembered is
answered from the cache, and a full cache gives up the entry whose last request is longest ago.  To
find that entry all are scanned; nothing is known of the order in which a scan meets them.
-/

namespace ParseBoxes

/-- What an extent is remembered under. -/
abbrev MeasureCache.Key := TextRole × String

/-- An extent that is remembered. -/
structure MeasureCache.Cached (α : Type) where
  size : Size α
  /-- The stamp of the last request. -/
  lastUsed : UInt64

/-- The extents remembered, by role and by text. -/
abbrev MeasureCache.Entries (α : Type) := Dict TextRole (Dict String (MeasureCache.Cached α))

/-- The extents asked for most recently. -/
structure MeasureCache (α : Type) where
  capacity : Nat
  capacity_pos : 0 < capacity
  entries : MeasureCache.Entries α := .empty
  /-- How many extents are remembered, counted as they come and go. -/
  size : Nat := 0
  /-- The stamp given last. -/
  clock : UInt64 := 0
  /-- How many requests the measurer itself had to answer. -/
  misses : Nat := 0

namespace MeasureCache

variable {α : Type}

/-- An empty cache; it holds one entry at least. -/
def ofCapacity (capacity : Nat) : MeasureCache α where
  capacity := max capacity 1
  capacity_pos := by omega

/-- The capacity of a cache that is given none. -/
def defaultCapacity : Nat := 4096

namespace Entries

def find? (es : Entries α) (key : Key) : Option (Cached α) := (es.get? key.1).bind (·.get? key.2)

def touch (es : Entries α) (key : Key) (now : UInt64) : Entries α :=
  es.modify key.1 (·.modify key.2 ({ · with lastUsed := now }))

def insert (es : Entries α) (key : Key) (e : Cached α) : Entries α :=
  es.alter key.1 fun byText => some ((byText.getD .empty).insert key.2 e)

def erase (es : Entries α) (key : Key) : Entries α := es.modify key.1 (·.erase key.2)

/-- All that is remembered. -/
def listed (es : Entries α) : List (Key × Cached α) :=
  es.rows.flatMap fun (role, byText) => byText.rows.map fun (text, e) => ((role, text), e)

@[simp] theorem find?_empty (key : Key) : find? (.empty : Entries α) key = none := rfl

/-- A change of one role's extents that changes one text's only. -/
theorem find?_alter {f : Option (Dict String (Cached α)) → Option (Dict String (Cached α))}
    (g : Option (Cached α) → Option (Cached α)) {es : Entries α} {key : Key}
    (hf : ∀ byText text, (f byText).bind (·.get? text) =
      if text = key.2 then g (byText.bind (·.get? key.2)) else byText.bind (·.get? text))
    (key' : Key) :
    find? (es.alter key.1 f) key' = if key' = key then g (es.find? key) else es.find? key' := by
  unfold find?
  rw [Dict.get?_alter]
  by_cases hrole : key'.1 = key.1
  · rw [if_pos hrole, hf, hrole]
    simp [Prod.ext_iff, hrole]
  · simp [Prod.ext_iff, hrole]

@[simp] theorem find?_touch (es : Entries α) (key : Key) (now : UInt64) (key' : Key) :
    (es.touch key now).find? key' =
      if key' = key then (es.find? key).map ({ · with lastUsed := now }) else es.find? key' := by
  apply find?_alter (Option.map ({ · with lastUsed := now }))
  intro byText text
  cases byText <;> simp

@[simp] theorem find?_insert (es : Entries α) (key : Key) (e : Cached α) (key' : Key) :
    (es.insert key e).find? key' = if key' = key then some e else es.find? key' := by
  apply find?_alter (fun _ => some e)
  intro byText text
  cases byText <;> simp

@[simp] theorem find?_erase (es : Entries α) (key key' : Key) :
    (es.erase key).find? key' = if key' = key then none else es.find? key' := by
  apply find?_alter (fun _ => none)
  intro byText text
  cases byText <;> simp

theorem mem_listed_iff (es : Entries α) {key : Key} {e : Cached α} :
    (key, e) ∈ es.listed ↔ es.find? key = some e := by
  obtain ⟨role, text⟩ := key
  simp only [listed, List.mem_flatMap, List.mem_map, find?, Option.bind_eq_some_iff]
  constructor
  · rintro ⟨⟨role', byText⟩, hrole, ⟨text', e'⟩, htext, heq⟩
    obtain ⟨⟨rfl, rfl⟩, rfl⟩ : (role' = role ∧ text' = text) ∧ e' = e := by simpa using heq
    exact ⟨byText, es.mem_rows_iff.1 hrole, byText.mem_rows_iff.1 htext⟩
  · rintro ⟨byText, hrole, htext⟩
    exact ⟨(role, byText), es.mem_rows_iff.2 hrole, (text, e), byText.mem_rows_iff.2 htext, rfl⟩

end Entries

/-- An order in which a scan meets what is remembered: it meets it all, and each once. -/
structure ScanOrder (α : Type) where
  arrange : List (Key × Cached α) → List (Key × Cached α)
  perm : ∀ listed, (arrange listed).Perm listed

/-- The order of the list. -/
def ScanOrder.asListed : ScanOrder α := ⟨id, fun _ => .refl _⟩

/-- What has not been asked for the longest: of equal stamps, the first that the scan meets. -/
def oldest? (order : ScanOrder α) (es : Entries α) : Option Key :=
  ((order.arrange es.listed).minOn? (·.2.lastUsed)).map (·.1)

/-- Gives up what has not been asked for the longest, and tells if anything was given up. -/
def evict (order : ScanOrder α) (es : Entries α) : Bool × Entries α :=
  match oldest? order es with
  | none => (false, es)
  | some key => ((es.find? key).isSome, es.erase key)

/-- Makes room for one more, if the cache is full. -/
def makeRoom (order : ScanOrder α) (c : MeasureCache α) : MeasureCache α :=
  if c.capacity ≤ c.size then
    let (evicted, kept) := evict order c.entries
    { c with entries := kept, size := if evicted then c.size - 1 else c.size }
  else c

/-- Answers a request, and remembers the answer. -/
def measureIn (order : ScanOrder α) (c : MeasureCache α) (inner : Measurer α) (key : Key) :
    Size α × MeasureCache α :=
  let now := c.clock + 1
  match c.entries.find? key with
  | some e => (e.size, { c with clock := now, entries := c.entries.touch key now })
  | none =>
    let size := inner key.2 key.1
    let roomy := c.makeRoom order
    (size, { roomy with
      clock := now
      entries := roomy.entries.insert key ⟨size, now⟩
      size := roomy.size + 1
      misses := c.misses + 1 })

def measure (c : MeasureCache α) (inner : Measurer α) (text : String) (role : TextRole) :
    Size α × MeasureCache α :=
  c.measureIn .asListed inner (role, text)

end MeasureCache

end ParseBoxes
