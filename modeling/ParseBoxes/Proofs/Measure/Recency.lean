import ParseBoxes.Measure.Cache
import Mathlib.Algebra.Group.Nat.Defs
import Mathlib.Data.List.Dedup
import Mathlib.Data.List.Induction
import Mathlib.Data.Prod.Basic

/-!
# What a cache remembers

A cache files its extents by role and by text, stamps them, and counts them as they come and go.
What it remembers is simpler than that: it is the keys asked for most recently, as many as there is
room for.  The scan that looks for the entry to give up may meet the entries in any order, for no
two bear the same stamp as long as the clock has not come around.
-/

namespace ParseBoxes

namespace MeasureCache

variable {α : Type}

/-! ### The keys asked for most recently -/

/-- The keys that were asked for, each once: the one whose last request is latest comes first. -/
def latest (requests : List Key) : List Key := requests.dedup.reverse

/-- The `n` keys asked for most recently. -/
def recent (n : Nat) (requests : List Key) : List Key := (latest requests).take n

theorem dedup_concat (requests : List Key) (key : Key) :
    (requests ++ [key]).dedup = requests.dedup.erase key ++ [key] := by
  induction requests with
  | nil => rfl
  | cons k rest ih =>
    by_cases hk : k ∈ rest
    · rw [List.cons_append, List.dedup_cons_of_mem (List.mem_append_left _ hk), ih,
        List.dedup_cons_of_mem hk]
    · rw [List.dedup_cons_of_notMem hk, List.cons_append]
      by_cases heq : k = key
      · subst heq
        rw [List.dedup_cons_of_mem (by simp), ih, List.erase_cons_head,
          List.erase_of_not_mem (mt List.mem_dedup.1 hk)]
      · rw [List.dedup_cons_of_notMem (by simp [hk, heq]), ih,
          List.erase_cons_tail (by simpa using heq), List.cons_append]

/-- What is asked for comes to the front. -/
theorem latest_concat (requests : List Key) (key : Key) :
    latest (requests ++ [key]) = key :: (latest requests).erase key := by
  have hnodup := List.nodup_dedup requests
  rw [latest, latest, dedup_concat, List.reverse_concat, hnodup.erase_eq_filter,
    (List.nodup_reverse.2 hnodup).erase_eq_filter, List.filter_reverse]

/-- What lies beyond the first `n` has no bearing on them when a key comes to the front. -/
theorem take_cons_erase (key : Key) (keys : List Key) (n : Nat) :
    (key :: (keys.take n).erase key).take n = (key :: keys.erase key).take n := by
  cases n with
  | zero => rfl
  | succ n =>
    simp only [List.take_succ_cons, List.cons.injEq, true_and]
    induction keys generalizing n with
    | nil => rfl
    | cons k rest ih =>
      by_cases hk : k = key
      · simp [hk, List.take_take]
      · cases n with
        | zero => simp
        | succ n => simpa [List.erase_cons_tail, hk] using ih n

theorem recent_nil (n : Nat) : recent n [] = [] := List.take_nil

theorem recent_concat (n : Nat) (requests : List Key) (key : Key) :
    recent n (requests ++ [key]) = (key :: (recent n requests).erase key).take n := by
  rw [recent, recent, latest_concat, take_cons_erase]

/-! ### Stamps -/

/-- The keys have been stamped by the clock, the first the latest. -/
structure Stamped (keys : List Key) (stamp : Key → UInt64) (clock : UInt64) : Prop where
  descending : keys.Pairwise fun later earlier => stamp earlier < stamp later
  le_clock : ∀ key ∈ keys, stamp key ≤ clock

namespace Stamped

variable {keys : List Key} {stamp : Key → UInt64} {clock : UInt64}

theorem nodup (h : Stamped keys stamp clock) : keys.Nodup :=
  h.descending.imp fun hlt heq => by simp [heq] at hlt

theorem sublist (h : Stamped keys stamp clock) {rest : List Key} (hrest : rest.Sublist keys) :
    Stamped rest stamp clock :=
  ⟨h.descending.sublist hrest, fun key hkey => h.le_clock key (hrest.subset hkey)⟩

/-- A key comes to the front with a stamp of its own; of the others, some may go. -/
theorem front (h : Stamped keys stamp clock) {rest : List Key} (hrest : rest.Sublist keys)
    {key : Key} (hkey : key ∉ rest) {now : UInt64} (hnow : clock < now) :
    Stamped (key :: rest) (Function.update stamp key now) now := by
  have old : ∀ k ∈ rest, Function.update stamp key now k = stamp k := fun k hk =>
    Function.update_of_ne (ne_of_mem_of_not_mem hk hkey) _ _
  have before : ∀ k ∈ rest, stamp k < now := fun k hk =>
    UInt64.lt_of_le_of_lt (h.le_clock k (hrest.subset hk)) hnow
  refine ⟨List.pairwise_cons.2 ⟨?_, ?_⟩, ?_⟩
  · intro k hk
    rw [old k hk, Function.update_self]
    exact before k hk
  · refine (h.descending.sublist hrest).imp_of_mem ?_
    intro later earlier hlater hearlier hlt
    rwa [old _ hlater, old _ hearlier]
  · intro k hk
    rcases List.mem_cons.1 hk with rfl | hk
    · rw [Function.update_self]
      exact UInt64.le_refl _
    · rw [old k hk]
      exact UInt64.le_of_lt (before k hk)

end Stamped

/-- In whichever order the entries are scanned, the oldest is the one whose stamp is before all
others. -/
theorem oldest?_eq_some {es : Entries α} {key : Key} {e : Cached α} (hfound : es.find? key = some e)
    (hleast : ∀ key' e', es.find? key' = some e' → key' ≠ key → e.lastUsed < e'.lastUsed)
    (order : ScanOrder α) : oldest? order es = some key := by
  have hmem : ∀ {key e}, (key, e) ∈ order.arrange es.listed ↔ es.find? key = some e := by
    intro key e
    rw [(order.perm _).mem_iff, Entries.mem_listed_iff]
  have harranged := hmem.2 hfound
  have hne := List.ne_nil_of_mem harranged
  have hle := List.apply_minOn_le_of_mem (f := (·.2.lastUsed)) harranged
  have hmin : (order.arrange es.listed).minOn (·.2.lastUsed) hne ∈ order.arrange es.listed :=
    List.minOn_mem
  rw [oldest?, List.minOn?_eq_some_minOn hne, Option.map_some, Option.some.injEq]
  by_contra hkey
  exact UInt64.not_le.2 (hleast _ _ (hmem.1 hmin) hkey) hle

/-! ### One request -/

/-- The cache remembers the extents of the keys, under their stamps, and nothing else. -/
structure Remembers (c : MeasureCache α) (inner : Measurer α) (keys : List Key)
    (stamp : Key → UInt64) : Prop where
  find : ∀ key, c.entries.find? key =
    if key ∈ keys then some ⟨inner key.2 key.1, stamp key⟩ else none
  stamped : Stamped keys stamp c.clock
  counted : c.size = keys.length
  fits : keys.length ≤ c.capacity

section Step

variable {c : MeasureCache α} {inner : Measurer α} {keys : List Key} {stamp : Key → UInt64}

theorem Remembers.oldest?_eq {rest : List Key} {last : Key}
    (h : Remembers c inner (rest ++ [last]) stamp) (order : ScanOrder α) :
    oldest? order c.entries = some last := by
  apply oldest?_eq_some (e := ⟨inner last.2 last.1, stamp last⟩)
  · rw [h.find, if_pos (by simp)]
  · intro key e hfound hne
    rw [h.find] at hfound
    split at hfound
    · next hkey =>
      cases hfound
      have hrest : key ∈ rest := by simpa [hne] using hkey
      exact (List.pairwise_append.1 h.stamped.descending).2.2 key hrest last (by simp)
    · cases hfound

theorem Remembers.evict_eq {rest : List Key} {last : Key}
    (h : Remembers c inner (rest ++ [last]) stamp) (order : ScanOrder α) :
    evict order c.entries = (true, c.entries.erase last) := by
  simp [evict, h.oldest?_eq order, h.find]

theorem clock_lt_add_one (hclock : c.clock.toNat + 1 < 2 ^ 64) : c.clock < c.clock + 1 := by
  rw [UInt64.lt_iff_toNat_lt, UInt64.toNat_add, UInt64.toNat_one]
  omega

theorem capacity_makeRoom (order : ScanOrder α) : (c.makeRoom order).capacity = c.capacity := by
  unfold makeRoom
  split <;> rfl

theorem capacity_measureIn (order : ScanOrder α) (key : Key) :
    (c.measureIn order inner key).2.capacity = c.capacity := by
  unfold measureIn
  split
  · rfl
  · exact capacity_makeRoom order

theorem clock_measureIn (order : ScanOrder α) (key : Key) :
    (c.measureIn order inner key).2.clock = c.clock + 1 := by
  unfold measureIn
  split <;> rfl

/-- Without the last entry the cache remembers the others. -/
theorem Remembers.giveUp {rest : List Key} {last : Key}
    (h : Remembers c inner (rest ++ [last]) stamp) :
    Remembers { c with entries := c.entries.erase last, size := c.size - 1 } inner rest stamp := by
  have hlast : last ∉ rest := fun hmem => List.disjoint_of_nodup_append h.stamped.nodup hmem
    (by simp)
  have hcounted := h.counted
  have hfits := h.fits
  simp only [List.length_append, List.length_singleton] at hcounted hfits
  refine ⟨?_, h.stamped.sublist (List.sublist_append_left rest [last]), ?_, ?_⟩
  · intro key
    by_cases hkey : key = last
    · simp [hkey, hlast]
    · simp [h.find, hkey]
  · change c.size - 1 = rest.length
    omega
  · change rest.length ≤ c.capacity
    omega

/-- To make room, the key asked for longest ago is given up. -/
theorem Remembers.makeRoom (h : Remembers c inner keys stamp) (order : ScanOrder α) :
    Remembers (c.makeRoom order) inner (keys.take (c.capacity - 1)) stamp := by
  have hpos := c.capacity_pos
  have hfits := h.fits
  unfold MeasureCache.makeRoom
  split
  · next hfull =>
    rw [h.counted] at hfull
    -- The cache is full, so its keys are the ones to be kept, and a last one.
    obtain rfl | ⟨rest, last, rfl⟩ := keys.eq_nil_or_concat'
    · rw [List.length_nil] at hfull
      omega
    · have hrest : rest.length = c.capacity - 1 := by
        simp only [List.length_append, List.length_singleton] at hfull hfits
        omega
      rw [List.take_left' hrest]
      simp only [h.evict_eq order, if_true]
      exact h.giveUp
  · next hroom =>
    rw [h.counted] at hroom
    rw [List.take_of_length_le (by omega)]
    exact h

theorem Remembers.measureIn_of_mem (h : Remembers c inner keys stamp) (order : ScanOrder α)
    (asked : Measurer α) {key : Key} (hkey : key ∈ keys) :
    c.measureIn order asked key = (inner key.2 key.1,
      { c with clock := c.clock + 1, entries := c.entries.touch key (c.clock + 1) }) := by
  simp [measureIn, h.find, hkey]

theorem Remembers.measureIn_of_notMem (h : Remembers c inner keys stamp) (order : ScanOrder α)
    (asked : Measurer α) {key : Key} (hkey : key ∉ keys) :
    c.measureIn order asked key = (asked key.2 key.1, { c.makeRoom order with
      clock := c.clock + 1
      entries := (c.makeRoom order).entries.insert key ⟨asked key.2 key.1, c.clock + 1⟩
      size := (c.makeRoom order).size + 1
      misses := c.misses + 1 }) := by
  simp [measureIn, h.find, hkey]

/-- A key that is remembered comes to the front. -/
theorem Remembers.hit (h : Remembers c inner keys stamp)
    (hclock : c.clock.toNat + 1 < 2 ^ 64) (order : ScanOrder α) {key : Key} (hkey : key ∈ keys) :
    Remembers (c.measureIn order inner key).2 inner (key :: keys.erase key)
      (Function.update stamp key (c.clock + 1)) := by
  have hlength : (key :: keys.erase key).length = keys.length := by
    rw [List.length_cons, List.length_erase_of_mem hkey]
    have := List.length_pos_of_mem hkey
    omega
  rw [h.measureIn_of_mem order inner hkey]
  refine ⟨?_, ?_, ?_, ?_⟩
  · intro k
    by_cases hk : k = key
    · subst hk
      simp [h.find, hkey]
    · simp [h.find, hk, List.mem_erase_of_ne hk]
  · apply h.stamped.front List.erase_sublist (h.stamped.nodup.not_mem_erase) (clock_lt_add_one hclock)
  · rw [hlength]
    exact h.counted
  · rw [hlength]
    exact h.fits

/-- A key that is not remembered comes to the front, once there is room for it. -/
theorem Remembers.miss (h : Remembers c inner keys stamp)
    (hclock : c.clock.toNat + 1 < 2 ^ 64) (order : ScanOrder α) {key : Key} (hkey : key ∉ keys) :
    Remembers (c.measureIn order inner key).2 inner (key :: keys.take (c.capacity - 1))
      (Function.update stamp key (c.clock + 1)) := by
  have hpos := c.capacity_pos
  have hkept : key ∉ keys.take (c.capacity - 1) := fun hmem => hkey (List.mem_of_mem_take hmem)
  have hroom := h.makeRoom order
  rw [h.measureIn_of_notMem order inner hkey]
  refine ⟨?_, ?_, ?_, ?_⟩
  · intro k
    by_cases hk : k = key
    · simp [hk]
    · simp [hroom.find, hk]
  · exact h.stamped.front (List.take_sublist _ _) hkept (clock_lt_add_one hclock)
  · simp [hroom.counted]
  · change _ ≤ (c.makeRoom order).capacity
    rw [capacity_makeRoom, List.length_cons, List.length_take]
    omega

/-- A request brings its key to the front of the keys, of which there stay as many as there is room
for. -/
theorem Remembers.request (h : Remembers c inner keys stamp)
    (hclock : c.clock.toNat + 1 < 2 ^ 64) (order : ScanOrder α) (key : Key) :
    Remembers (c.measureIn order inner key).2 inner ((key :: keys.erase key).take c.capacity)
      (Function.update stamp key (c.clock + 1)) := by
  have hpos := c.capacity_pos
  by_cases hkey : key ∈ keys
  · have hhit := h.hit hclock order hkey
    have hfits := hhit.fits
    rw [capacity_measureIn] at hfits
    rwa [List.take_of_length_le hfits]
  · rw [List.erase_of_not_mem hkey, List.take_cons hpos]
    exact h.miss hclock order hkey

end Step

/-! ### Many requests -/

/-- The keys that the cache holds extents for. -/
def keys (c : MeasureCache α) : List Key := c.entries.listed.map (·.1)

theorem nodup_keys (c : MeasureCache α) : c.keys.Nodup := by
  rw [keys, Entries.listed, List.map_flatMap, List.nodup_flatMap]
  constructor
  · rintro ⟨role, byText⟩ -
    have hkeys := byText.nodup.map (Prod.mk_right_injective role)
    simpa [Function.comp_def] using hkeys
  · refine (List.pairwise_map.1 c.entries.nodup).imp ?_
    rintro ⟨role, byText⟩ ⟨role', byText'⟩ hne
    simp only [Function.onFun, List.disjoint_left, List.mem_map]
    rintro key ⟨x, ⟨row, -, rfl⟩, rfl⟩ ⟨y, ⟨row', -, rfl⟩, heq⟩
    exact hne (congrArg Prod.fst heq).symm

theorem Remembers.keys_perm {c : MeasureCache α} {inner : Measurer α} {keys : List Key}
    {stamp : Key → UInt64} (h : Remembers c inner keys stamp) : c.keys.Perm keys := by
  refine (List.perm_ext_iff_of_nodup c.nodup_keys h.stamped.nodup).2 fun key => ?_
  have hmem : key ∈ c.keys ↔ (c.entries.find? key).isSome := by
    simp [MeasureCache.keys, Entries.mem_listed_iff, Option.isSome_iff_exists]
  rw [hmem, h.find]
  split <;> simp [*]

/-- The cache after requests, each with the order in which a scan for it would go. -/
def serve (c : MeasureCache α) (inner : Measurer α) (requests : List (ScanOrder α × Key)) :
    MeasureCache α :=
  requests.foldl (fun c r => (c.measureIn r.1 inner r.2).2) c

theorem serve_concat (c : MeasureCache α) (inner : Measurer α)
    (requests : List (ScanOrder α × Key)) (r : ScanOrder α × Key) :
    c.serve inner (requests ++ [r]) = ((c.serve inner requests).measureIn r.1 inner r.2).2 := by
  simp [serve]

theorem remembers_ofCapacity (n : Nat) (inner : Measurer α) (stamp : Key → UInt64) :
    Remembers (ofCapacity n) inner [] stamp :=
  ⟨fun key => by simp [ofCapacity], ⟨.nil, by simp⟩, rfl, Nat.zero_le _⟩

theorem capacity_serve (n : Nat) (inner : Measurer α) (requests : List (ScanOrder α × Key)) :
    ((ofCapacity n).serve inner requests).capacity = max n 1 := by
  induction requests using List.reverseRecOn with
  | nil => rfl
  | append_singleton requests r ih => rw [serve_concat, capacity_measureIn, ih]

/-- The clock counts the requests, until it comes around. -/
theorem clock_serve (n : Nat) (inner : Measurer α) (requests : List (ScanOrder α × Key)) :
    ((ofCapacity n).serve inner requests).clock = UInt64.ofNat requests.length := by
  induction requests using List.reverseRecOn with
  | nil => rfl
  | append_singleton requests r ih =>
    rw [serve_concat, clock_measureIn, ih, List.length_append, List.length_singleton,
      UInt64.ofNat_add]
    rfl

/-- After any requests, as many of the keys asked for most recently are remembered as there is room
for. -/
theorem exists_remembers (n : Nat) (inner : Measurer α) (requests : List (ScanOrder α × Key))
    (hlength : requests.length < 2 ^ 64) :
    ∃ stamp, Remembers ((ofCapacity n).serve inner requests) inner
      (recent (max n 1) (requests.map (·.2))) stamp := by
  induction requests using List.reverseRecOn with
  | nil =>
    rw [List.map_nil, recent_nil]
    exact ⟨fun _ => 0, remembers_ofCapacity n inner _⟩
  | append_singleton requests r ih =>
    rw [List.length_append, List.length_singleton] at hlength
    obtain ⟨stamp, h⟩ := ih (by omega)
    have hclock : ((ofCapacity n).serve inner requests).clock.toNat + 1 < 2 ^ 64 := by
      rw [clock_serve, UInt64.toNat_ofNat_of_lt' (Nat.lt_of_succ_lt hlength)]
      exact hlength
    have hrequest := h.request hclock r.1 r.2
    rw [capacity_serve, ← recent_concat] at hrequest
    rw [serve_concat, List.map_append, List.map_singleton]
    exact ⟨_, hrequest⟩

/-- A cache is nothing but the list of the keys asked for most recently, as many as it has room
for.  Each request gets the answer of the measurer; it leaves the extents of the keys that were then
asked for most recently, and they are as many as were counted; and the measurer at hand is asked if,
and only if, the key was not among them before. -/
theorem caches_most_recent (inner : Measurer α) (capacity : Nat)
    (served : List (ScanOrder α × Key)) (order : ScanOrder α) (key : Key)
    (hlength : served.length + 1 < 2 ^ 64) :
    let n := max capacity 1
    let requests := served.map (·.2)
    let before := (ofCapacity capacity).serve inner served
    let answer := (before.measureIn order inner key).1
    let after := (before.measureIn order inner key).2
    answer = inner key.2 key.1 ∧
      after.keys.Perm (recent n (requests ++ [key])) ∧
      after.size = after.keys.length ∧ after.size ≤ n ∧
      after.misses = before.misses + (if key ∈ recent n requests then 0 else 1) ∧
      ∀ asked : Measurer α, (before.measureIn order asked key).1 =
        if key ∈ recent n requests then inner key.2 key.1 else asked key.2 key.1 := by
  intro n requests before answer after
  obtain ⟨stamp, hbefore⟩ := exists_remembers capacity inner served (by omega)
  -- what is remembered after the request is what is remembered of one request more
  obtain ⟨stamp', hafter⟩ := exists_remembers capacity inner (served ++ [(order, key)])
    (by simpa using hlength)
  rw [serve_concat, List.map_append, List.map_singleton] at hafter
  have hperm := hafter.keys_perm
  have hcounted := hafter.counted
  have hfits := hafter.fits
  rw [capacity_measureIn, capacity_serve] at hfits
  have hanswer : ∀ asked : Measurer α, (before.measureIn order asked key).1 =
      if key ∈ recent n requests then inner key.2 key.1 else asked key.2 key.1 := by
    intro asked
    by_cases hkey : key ∈ recent n requests
    · rw [hbefore.measureIn_of_mem order asked hkey, if_pos hkey]
    · rw [hbefore.measureIn_of_notMem order asked hkey, if_neg hkey]
  refine ⟨?_, hperm, ?_, ?_, ?_, hanswer⟩
  · exact (hanswer inner).trans (ite_self _)
  · exact hcounted.trans hperm.length_eq.symm
  · exact Nat.le_trans (Nat.le_of_eq hcounted) hfits
  · by_cases hkey : key ∈ recent n requests
    · rw [if_pos hkey]
      exact congrArg (·.2.misses) (hbefore.measureIn_of_mem order inner hkey)
    · rw [if_neg hkey]
      exact congrArg (·.2.misses) (hbefore.measureIn_of_notMem order inner hkey)

/-- Of three texts, a cache of two forgets the one that was not asked for again. -/
theorem third_text_displaces_second :
    let inner : Measurer Nat := fun text _ => ⟨text.length, 1⟩
    let backwards : ScanOrder Nat := ⟨List.reverse, fun _ => List.reverse_perm _⟩
    let ask (text : String) : ScanOrder Nat × Key := (backwards, .input, text)
    let before := (ofCapacity 2).serve inner [ask "a", ask "b", ask "a"]
    let after := (before.measureIn backwards inner (.input, "c")).2
    after.keys.Perm [(.input, "c"), (.input, "a")] ∧ after.misses = before.misses + 1 := by
  intro inner backwards ask before after
  obtain ⟨-, hkeys, -, -, hmisses, -⟩ := caches_most_recent inner 2 [ask "a", ask "b", ask "a"]
    backwards (.input, "c") (by decide)
  exact ⟨hkeys, hmisses⟩

end MeasureCache

end ParseBoxes
