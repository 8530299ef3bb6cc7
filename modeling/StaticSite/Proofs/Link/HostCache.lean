import Mathlib.Data.List.Induction
import StaticSite.Link.HostCache

/-!
# What a cache of hosts answers

A cache of hosts is asked again and again, at later and later times, under various keys, and with
loads that may fail; in between it may be told to forget what it has. This module says where the
hosts of an answer come from.

`HostCall` is one such call and `HostCache.run` the cache after a list of them. `after_cases` says
all that a call can do: it empties the cache, or it loads, or it leaves the cache as it is. A call
loads (`HostCall.Loads`) if the cache has no fresh hosts for its key and its load does not fail.

`IsLatestLoad` speaks of the calls alone: one of them loaded, and none after it loaded or emptied
the cache. The invariant is that the entry of a cache is the latest load of the calls that it has
seen, no less and no more (`entry_run_iff`). What a lookup answers follows from this at once
(`answer_is_latest_or_own_load`).

Keys are compared by any test at all, and the clock may count in anything that has differences.
-/

namespace StaticSite.Link

/-! ### Lists of hosts -/

theorem nodup_eraseDups (xs : List String) : xs.eraseDups.Nodup := by
  match xs with
  | [] => exact List.nodup_nil
  | x :: xs =>
    -- The rest of the result comes from the members that differ from the first.
    rw [List.eraseDups_cons, List.nodup_cons, List.mem_eraseDups, List.mem_filter]
    exact ⟨by simp, nodup_eraseDups _⟩
termination_by xs.length
decreasing_by exact Nat.lt_succ_of_le (List.length_filter_le ..)

/-- A list of hosts holds no host twice. -/
theorem nodup_normalizeHosts (loaded : List String) : (normalizeHosts loaded).Nodup :=
  nodup_eraseDups _

/-- A list of hosts holds the normal forms of the entries that are not blank. -/
theorem mem_normalizeHosts_iff {loaded : List String} {host : String} :
    host ∈ normalizeHosts loaded ↔
      ∃ entry ∈ loaded, Text.isAllBlank entry = false ∧ normalizeHost entry = host := by
  unfold normalizeHosts
  simp only [List.mem_eraseDups, List.mem_map, List.mem_filter, Bool.not_eq_true', and_assoc]

/-! ### Calls -/

/-- A call on a cache of hosts: a lookup at a time, with what its load gives unless it fails, or the
order to forget the hosts. -/
inductive HostCall (κ τ : Type) where
  | get (now : τ) (key : κ) (load : Option (List String))
  | invalidate
deriving DecidableEq

/-- The reading of the clock in a call. -/
def HostCall.time? {κ τ : Type} : HostCall κ τ → Option τ
  | .get now _ _ => some now
  | .invalidate => none

/-- The readings of the clock in a list of calls. -/
def clockReadings {κ τ : Type} (calls : List (HostCall κ τ)) : List τ :=
  calls.filterMap HostCall.time?

namespace HostCache

section Calls

variable {κ τ : Type} [BEq κ] [Sub τ] [LT τ] [DecidableLT τ]
variable {c start : HostCache κ τ} {calls : List (HostCall κ τ)} {call : HostCall κ τ}
  {time now : τ} {key : κ} {loaded hosts : List String}

/-- The cache after a call. -/
def after (c : HostCache κ τ) : HostCall κ τ → HostCache κ τ
  | .get now key load => (c.get now key load).2
  | .invalidate => c.invalidate

/-- The cache after a list of calls. -/
def run (c : HostCache κ τ) (calls : List (HostCall κ τ)) : HostCache κ τ := calls.foldl after c

/-- Whether a call loads: the cache has no fresh hosts for it, and its load does not fail. -/
def Loads (c : HostCache κ τ) : HostCall κ τ → Prop
  | .get now key (some _) => c.fresh? now key = none
  | .get _ _ none => False
  | .invalidate => False

/-- **The latest load** of a list of calls: one of them loaded, and none after it loaded again or
emptied the cache. -/
inductive IsLatestLoad (start : HostCache κ τ) :
    List (HostCall κ τ) → τ → κ → List String → Prop
  | load {calls : List (HostCall κ τ)} {time : τ} {key : κ} {loaded : List String}
      (h : (start.run calls).Loads (.get time key (some loaded))) :
      IsLatestLoad start (calls ++ [.get time key (some loaded)]) time key loaded
  | later {calls : List (HostCall κ τ)} {call : HostCall κ τ} {time : τ} {key : κ}
      {loaded : List String} (h : IsLatestLoad start calls time key loaded)
      (hload : ¬ (start.run calls).Loads call) (hkeep : call ≠ .invalidate) :
      IsLatestLoad start (calls ++ [call]) time key loaded

/-- A cache has fresh hosts for a key if its entry is under the key and not too old. -/
theorem fresh?_eq_some_iff :
    c.fresh? now key = some hosts ↔
      ∃ e, c.entry = some e ∧ (now - e.loadedAt < c.ttl ∧ key == e.key) ∧ e.hosts = hosts := by
  unfold fresh?
  rw [Option.bind_eq_some_iff]
  refine exists_congr fun e => and_congr_right fun _ => ?_
  rw [Option.ite_none_right_eq_some, Option.some.injEq]

theorem get_of_fresh?_eq_some (h : c.fresh? now key = some hosts) (load : Option (List String)) :
    c.get now key load = (hosts, c) := by
  unfold get
  rw [h]

theorem get_of_fresh?_eq_none (h : c.fresh? now key = none) (loaded : List String) :
    c.get now key (some loaded) =
      (normalizeHosts loaded, { c with entry := some ⟨normalizeHosts loaded, key, now⟩ }) := by
  unfold get
  rw [h]

/-- A lookup without fresh hosts whose load fails gives none. -/
theorem fst_get_none_of_fresh?_eq_none (h : c.fresh? now key = none) :
    (c.get now key none).1 = [] := by
  unfold get
  rw [h]

/-- A lookup whose load fails leaves the cache as it is. -/
theorem snd_get_none (c : HostCache κ τ) (now : τ) (key : κ) : (c.get now key none).2 = c := by
  unfold get
  cases c.fresh? now key <;> rfl

/-- **All that a call can do**: it empties the cache, it loads, or it leaves the cache as it is. -/
theorem after_cases (c : HostCache κ τ) (call : HostCall κ τ) :
    (call = .invalidate ∧ c.after call = { c with entry := none }) ∨
    (∃ time key loaded, call = .get time key (some loaded) ∧ c.Loads call ∧
      c.after call = { c with entry := some ⟨normalizeHosts loaded, key, time⟩ }) ∨
    (call ≠ .invalidate ∧ ¬ c.Loads call ∧ c.after call = c) := by
  cases call with
  | invalidate => exact .inl ⟨rfl, rfl⟩
  | get time key load =>
    cases load with
    | none => exact .inr (.inr ⟨nofun, id, snd_get_none c time key⟩)
    | some loaded =>
      -- It loads only where nothing fresh is kept.
      cases hfresh : c.fresh? time key with
      | none =>
        refine .inr (.inl ⟨time, key, loaded, rfl, hfresh, ?_⟩)
        rw [after, get_of_fresh?_eq_none hfresh]
      | some hosts =>
        refine .inr (.inr ⟨nofun, fun hload => ?_, ?_⟩)
        · rw [Loads, hfresh] at hload
          cases hload
        · rw [after, get_of_fresh?_eq_some hfresh]

@[simp] theorem run_nil (c : HostCache κ τ) : c.run [] = c := rfl

theorem run_concat (c : HostCache κ τ) (calls : List (HostCall κ τ)) (call : HostCall κ τ) :
    c.run (calls ++ [call]) = (c.run calls).after call := by
  unfold run
  rw [List.foldl_append, List.foldl_cons, List.foldl_nil]

/-- Calls do not change how long hosts stay fresh. -/
theorem ttl_run (start : HostCache κ τ) (calls : List (HostCall κ τ)) :
    (start.run calls).ttl = start.ttl := by
  induction calls using List.reverseRecOn with
  | nil => rfl
  | append_singleton calls call ih =>
    rw [run_concat, ← ih]
    rcases after_cases (start.run calls) call with ⟨-, h⟩ | ⟨_, _, _, -, -, h⟩ | ⟨-, -, h⟩ <;>
      rw [h]

/-! ### The latest load -/

theorem not_isLatestLoad_nil : ¬ IsLatestLoad start [] time key loaded := by
  generalize hnil : ([] : List (HostCall κ τ)) = calls
  rintro (_ | _) <;> exact List.append_ne_nil_of_right_ne_nil _ (List.cons_ne_nil _ _) hnil.symm

/-- The last call is the latest load, or it leaves the latest load what it was. -/
theorem isLatestLoad_concat_iff :
    IsLatestLoad start (calls ++ [call]) time key loaded ↔
      (call = .get time key (some loaded) ∧ (start.run calls).Loads call) ∨
      (IsLatestLoad start calls time key loaded ∧ ¬ (start.run calls).Loads call ∧
        call ≠ .invalidate) := by
  constructor
  · generalize hcalls : calls ++ [call] = all
    rintro (h | ⟨h, hload, hkeep⟩)
    · obtain ⟨rfl, hcall⟩ := List.append_inj' hcalls rfl
      obtain rfl := List.singleton_inj.mp hcall
      exact .inl ⟨rfl, h⟩
    · obtain ⟨rfl, hcall⟩ := List.append_inj' hcalls rfl
      obtain rfl := List.singleton_inj.mp hcall
      exact .inr ⟨h, hload, hkeep⟩
  · rintro (⟨rfl, h⟩ | ⟨h, hload, hkeep⟩)
    · exact .load h
    · exact .later h hload hkeep

/-- The latest load was made at one of the readings of the clock. -/
theorem IsLatestLoad.time_mem (h : IsLatestLoad start calls time key loaded) :
    time ∈ clockReadings calls := by
  unfold clockReadings
  induction h with
  | load h =>
    rw [List.filterMap_append]
    exact List.mem_append_right _ List.mem_cons_self
  | later h hload hkeep ih =>
    rw [List.filterMap_append]
    exact List.mem_append_left _ ih

/-- **The entry of a cache is the latest load** of the calls on it, normalized, with its key and its
time. -/
theorem entry_run_iff (hstart : start.entry = none) (calls : List (HostCall κ τ))
    (e : HostEntry κ τ) :
    (start.run calls).entry = some e ↔
      ∃ loaded, IsLatestLoad start calls e.loadedAt e.key loaded ∧
        e.hosts = normalizeHosts loaded := by
  -- By induction on the calls from the last one, which is the one that changed the cache last.
  induction calls using List.reverseRecOn with
  | nil =>
    rw [run_nil, hstart]
    exact ⟨nofun, fun ⟨_, h, _⟩ => absurd h not_isLatestLoad_nil⟩
  | append_singleton calls call ih =>
    simp only [run_concat, isLatestLoad_concat_iff]
    rcases after_cases (start.run calls) call with
      ⟨rfl, hafter⟩ | ⟨time, key, loaded, rfl, hload, hafter⟩ | ⟨hkeep, hload, hafter⟩
    · rw [hafter]
      refine ⟨nofun, ?_⟩
      rintro ⟨_, (⟨hcall, -⟩ | ⟨-, -, hkeep⟩), -⟩
      · cases hcall
      · exact absurd rfl hkeep
    · rw [hafter]
      constructor
      · rintro he
        obtain rfl := Option.some.inj he
        exact ⟨loaded, .inl ⟨rfl, hload⟩, rfl⟩
      · rintro ⟨_, (⟨hcall, -⟩ | ⟨-, hnot, -⟩), hhosts⟩
        · cases hcall
          rw [← hhosts]
        · exact absurd hload hnot
    -- Neither side has changed.
    · rw [hafter, ih]
      refine exists_congr fun loaded => and_congr_left fun _ => ?_
      constructor
      · exact fun h => .inr ⟨h, hload, hkeep⟩
      · rintro (⟨-, h⟩ | ⟨h, -, -⟩)
        · exact absurd h hload
        · exact h

end Calls

/-! ### Answers -/

section Answers

variable {κ τ : Type} [BEq κ] [Sub τ] [LE τ] [LT τ] [DecidableLT τ]
variable {start : HostCache κ τ} {calls : List (HostCall κ τ)} {now : τ} {key : κ}
  {hosts : List String}

/-- **The hosts of a fresh load**: those of the latest load, which was made under the same key, not
after now, and less than the time to live ago. -/
def IsFreshLoad (start : HostCache κ τ) (calls : List (HostCall κ τ)) (now : τ) (key : κ)
    (hosts : List String) : Prop :=
  ∃ time key' loaded, IsLatestLoad start calls time key' loaded ∧ (key == key') = true ∧
    time ≤ now ∧ now - time < start.ttl ∧ hosts = normalizeHosts loaded

/-- The fresh hosts of a cache are those of a fresh load, if the clock was never ahead of now. -/
theorem fresh?_run_eq_some_iff (hstart : start.entry = none)
    (hclock : ∀ time ∈ clockReadings calls, time ≤ now) :
    (start.run calls).fresh? now key = some hosts ↔ IsFreshLoad start calls now key hosts := by
  rw [fresh?_eq_some_iff, ttl_run]
  constructor
  · rintro ⟨e, he, ⟨hage, hkey⟩, rfl⟩
    obtain ⟨loaded, hlatest, hhosts⟩ := (entry_run_iff hstart calls e).mp he
    exact ⟨e.loadedAt, e.key, loaded, hlatest, hkey, hclock _ hlatest.time_mem, hage, hhosts⟩
  · rintro ⟨time, key', loaded, hlatest, hkey, -, hage, hhosts⟩
    exact ⟨⟨hosts, key', time⟩, (entry_run_iff hstart calls _).mpr ⟨loaded, hlatest, hhosts⟩,
      ⟨hage, hkey⟩, rfl⟩

/-- **Where answers come from.** A cache is empty at first and is then used by any calls, whose
readings of the clock never go back. A lookup after these calls gives

* the hosts of the latest load, if that was made under the same key less than the time to live ago,
  and the cache was not emptied since;
* otherwise those of its own load, normalized, or none if that load fails.

A lookup whose load fails leaves the cache as it was. Normalized hosts are the normal forms of the
entries that are not blank, none of them twice. -/
theorem answer_is_latest_or_own_load (ttl : τ) (calls : List (HostCall κ τ)) (now : τ) (key : κ)
    (load : Option (List String))
    (hclock : (clockReadings (calls ++ [.get now key load])).Pairwise (· ≤ ·)) :
    let start : HostCache κ τ := { ttl }
    let c := start.run calls
    let answer := (c.get now key load).1
    (IsFreshLoad start calls now key answer ∨
      (¬ ∃ hosts, IsFreshLoad start calls now key hosts) ∧
        ((∃ loaded, load = some loaded ∧ answer = normalizeHosts loaded) ∨
          load = none ∧ answer = [])) ∧
    (load = none → (c.get now key load).2 = c) ∧
    ∀ loaded, (normalizeHosts loaded).Nodup ∧ ∀ host, host ∈ normalizeHosts loaded ↔
      ∃ entry ∈ loaded, Text.isAllBlank entry = false ∧ normalizeHost entry = host := by
  intro start c answer
  -- No reading before this lookup is later than its own.
  have hbefore : ∀ time ∈ clockReadings calls, time ≤ now := by
    unfold clockReadings at hclock
    rw [List.filterMap_append, List.pairwise_append] at hclock
    exact fun time htime => hclock.2.2 time htime now List.mem_cons_self
  have hfresh (hosts : List String) :
      c.fresh? now key = some hosts ↔ IsFreshLoad start calls now key hosts :=
    fresh?_run_eq_some_iff rfl hbefore
  refine ⟨?_, ?_, fun loaded => ⟨nodup_normalizeHosts loaded, fun _ => mem_normalizeHosts_iff⟩⟩
  · cases hc : c.fresh? now key with
    | some hosts =>
      have hanswer : answer = hosts := congrArg Prod.fst (get_of_fresh?_eq_some hc load)
      rw [hanswer]
      exact .inl ((hfresh hosts).mp hc)
    | none =>
      refine .inr ⟨?_, ?_⟩
      · rintro ⟨hosts, h⟩
        rw [(hfresh hosts).mpr h] at hc
        cases hc
      · cases load with
        | none => exact .inr ⟨rfl, fst_get_none_of_fresh?_eq_none hc⟩
        | some loaded =>
          exact .inl ⟨loaded, rfl, congrArg Prod.fst (get_of_fresh?_eq_none hc loaded)⟩
  · rintro rfl
    exact snd_get_none c now key

/-- Within its time to live, a load is answered from although a lookup under another key has failed
since. The lookup's own load is not used. -/
theorem answer_after_failed_load :
    let calls : List (HostCall String Nat) :=
      [.get 0 "a" (some [" WWW.A.com", "a.com", ""]), .get 3 "b" none]
    let c := ({ ttl := 5 } : HostCache String Nat).run calls
    let load := some ["z.com"]
    (clockReadings (calls ++ [.get 4 "a" load])).Pairwise (· ≤ ·) ∧
      (c.get 4 "a" load).1 = ["a.com"] ∧ IsFreshLoad { ttl := 5 } calls 4 "a" ["a.com"] := by
  intro calls c load
  have hclock : (clockReadings (calls ++ [.get 4 "a" load])).Pairwise (· ≤ ·) := by decide
  have hanswer : (c.get 4 "a" load).1 = ["a.com"] := by decide +kernel
  refine ⟨hclock, hanswer, ?_⟩
  have h := (answer_is_latest_or_own_load 5 calls 4 "a" load hclock).1
  rw [hanswer] at h
  -- The lookup did not answer from its own load.
  refine h.resolve_right ?_
  rintro ⟨-, ⟨loaded, hload, hown⟩ | ⟨hload, -⟩⟩
  · obtain rfl := Option.some.inj hload
    exact absurd hown (by decide +kernel)
  · exact Option.some_ne_none _ hload

end Answers

end HostCache

end StaticSite.Link
