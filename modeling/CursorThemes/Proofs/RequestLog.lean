import CursorThemes.Host
import Mathlib.Data.List.Induction
import Mathlib.Data.List.Nodup

/-! # Discipline of a request log

A service can follow its log only if every request makes sense when it arrives.

* **`RequestLog.Admissible`** says what makes sense after a log: handles are made once, requests
  name what is there, and a pool goes after its buffers.
* **`RequestLog.Disciplined`** says that every request of a log made sense after the ones before it.
* What a discipline is good for: **`RequestLog.Disciplined.nodup_made`**, and
  **`RequestLog.Disciplined.unnamed_after_destroyPool`**. -/

namespace CursorThemes

/-- The handle that a request makes, if it makes one. -/
def Request.made? : Request → Option Handle
  | createPool id _ => some id
  | createBuffer id _ _ _ _ _ => some id
  | resizePool _ _ | destroyPool _ | destroyBuffer _ => none

/-- The pool that a request names, if it names one. -/
def Request.pool? : Request → Option Handle
  | createPool id _ => some id
  | resizePool id _ => some id
  | createBuffer _ pool _ _ _ _ => some pool
  | destroyPool id => some id
  | destroyBuffer _ => none

namespace RequestLog

/-! ## What is there after a log -/

/-- No request of a log made the handle. -/
def Unused (log : List Request) (id : Handle) : Prop :=
  ∀ request ∈ log, request.made? ≠ some id

/-- A buffer was made from a pool. -/
def MadeFrom (log : List Request) (buffer pool : Handle) : Prop :=
  ∃ offset width height stride, .createBuffer buffer pool offset width height stride ∈ log

/-- A pool was made and not given up. -/
def LivePool (log : List Request) (pool : Handle) : Prop :=
  (∃ size, .createPool pool size ∈ log) ∧ .destroyPool pool ∉ log

/-- A buffer was made from a pool and not given up. -/
def LiveBuffer (log : List Request) (buffer pool : Handle) : Prop :=
  MadeFrom log buffer pool ∧ .destroyBuffer buffer ∉ log

/-- **What a service can be asked after a log.** A new handle is not used yet; a pool that is
resized or that a buffer is made from is there; a buffer that is given up is there; and a pool that
is given up is there while none of its buffers is. -/
def Admissible (log : List Request) : Request → Prop
  | .createPool id _ => Unused log id
  | .resizePool id _ => LivePool log id
  | .createBuffer id pool _ _ _ _ => Unused log id ∧ LivePool log pool
  | .destroyPool id => LivePool log id ∧ ∀ buffer, ¬ LiveBuffer log buffer id
  | .destroyBuffer id => ∃ pool, LiveBuffer log id pool

/-- **A log is disciplined** if every request was admissible after the ones before it. -/
def Disciplined (log : List Request) : Prop :=
  ∀ earlier request later, log = earlier ++ request :: later → Admissible earlier request

/-- What was made from a pool stays made. -/
theorem MadeFrom.append {log : List Request} {buffer pool : Handle} (made : MadeFrom log buffer pool)
    (later : List Request) : MadeFrom (log ++ later) buffer pool := by
  obtain ⟨offset, width, height, stride, member⟩ := made
  exact ⟨offset, width, height, stride, List.mem_append_left later member⟩

/-- A request that makes no buffer from a pool adds none. -/
theorem madeFrom_append_iff {log later : List Request} {buffer pool : Handle}
    (other : ∀ offset width height stride,
      .createBuffer buffer pool offset width height stride ∉ later) :
    MadeFrom (log ++ later) buffer pool ↔ MadeFrom log buffer pool := by
  constructor
  · rintro ⟨offset, width, height, stride, member⟩
    rcases List.mem_append.mp member with old | new
    · exact ⟨offset, width, height, stride, old⟩
    · exact absurd new (other offset width height stride)
  · intro made
    exact made.append later

/-- A pool stays until it is given up. -/
theorem LivePool.append {log later : List Request} {pool : Handle} (live : LivePool log pool)
    (kept : .destroyPool pool ∉ later) : LivePool (log ++ later) pool := by
  obtain ⟨⟨size, made⟩, there⟩ := live
  refine ⟨⟨size, List.mem_append_left later made⟩, ?_⟩
  intro member
  rcases List.mem_append.mp member with old | new
  · exact there old
  · exact kept new

/-- Requests that neither make a buffer nor give one up. -/
theorem liveBuffer_append_iff {log later : List Request} {buffer pool : Handle}
    (made : ∀ offset width height stride,
      .createBuffer buffer pool offset width height stride ∉ later)
    (given : .destroyBuffer buffer ∉ later) :
    LiveBuffer (log ++ later) buffer pool ↔ LiveBuffer log buffer pool := by
  rw [LiveBuffer, LiveBuffer, madeFrom_append_iff made, List.mem_append, not_or]
  constructor
  · rintro ⟨there, kept, -⟩
    exact ⟨there, kept⟩
  · rintro ⟨there, kept⟩
    exact ⟨there, kept, given⟩

/-- A buffer is given up. -/
theorem liveBuffer_append_destroyBuffer_iff {log : List Request} {id buffer pool : Handle} :
    LiveBuffer (log ++ [.destroyBuffer id]) buffer pool
      ↔ LiveBuffer log buffer pool ∧ buffer ≠ id := by
  rw [LiveBuffer, LiveBuffer, madeFrom_append_iff (by simp), List.mem_append, not_or,
    List.mem_singleton, Request.destroyBuffer.injEq, and_assoc]

/-- A buffer is made. -/
theorem liveBuffer_append_createBuffer_iff {log : List Request} {id buffer pool : Handle}
    {offset width height stride : Int32} (kept : .destroyBuffer id ∉ log) :
    LiveBuffer (log ++ [.createBuffer id pool offset width height stride]) buffer pool
      ↔ LiveBuffer log buffer pool ∨ buffer = id := by
  have made : MadeFrom (log ++ [.createBuffer id pool offset width height stride]) id pool :=
    ⟨offset, width, height, stride, List.mem_append_right _ (List.mem_singleton_self _)⟩
  by_cases new : buffer = id
  · subst new
    refine iff_of_true ⟨made, ?_⟩ (Or.inr rfl)
    rw [List.mem_append, not_or]
    exact ⟨kept, by simp⟩
  · rw [liveBuffer_append_iff (by simp [new]) (by simp), or_iff_left new]

/-! ## Disciplined logs -/

/-- The empty log is disciplined. -/
theorem disciplined_nil : Disciplined [] := by
  intro earlier request later split
  cases earlier <;> cases split

/-- A log stays disciplined exactly if the next request is admissible. -/
theorem disciplined_append_singleton {log : List Request} {request : Request} :
    Disciplined (log ++ [request]) ↔ Disciplined log ∧ Admissible log request := by
  constructor
  · intro disciplined
    refine ⟨?_, disciplined log request [] rfl⟩
    intro earlier other later split
    refine disciplined earlier other (later ++ [request]) ?_
    rw [split, List.append_assoc, List.cons_append]
  · rintro ⟨disciplined, admissible⟩ earlier other later split
    -- the request in question is the last one, or it has its place in the log before
    rcases List.eq_nil_or_concat later with rfl | ⟨rest, last, rfl⟩
    · obtain ⟨rfl, same⟩ := List.append_inj' split rfl
      cases same
      exact admissible
    · rw [List.concat_eq_append, ← List.cons_append, ← List.append_assoc] at split
      obtain ⟨rfl, -⟩ := List.append_inj' split rfl
      exact disciplined earlier other rest rfl

variable {log : List Request}

/-- What a request makes was not there before it. -/
theorem Admissible.unused {request : Request} (admissible : Admissible log request) {id : Handle}
    (made : request.made? = some id) : Unused log id := by
  cases request with
  | createPool _ _ =>
    cases made
    exact admissible
  | createBuffer _ _ _ _ _ _ =>
    cases made
    exact admissible.1
  | resizePool _ _ => cases made
  | destroyPool _ => cases made
  | destroyBuffer _ => cases made

/-- A pool that is named is made by that very request, or is there. -/
theorem Admissible.made_or_live {request : Request} (admissible : Admissible log request)
    {pool : Handle} (named : request.pool? = some pool) :
    (∃ size, request = .createPool pool size) ∨ LivePool log pool := by
  cases request with
  | createPool _ size =>
    cases named
    exact Or.inl ⟨size, rfl⟩
  | resizePool _ _ =>
    cases named
    exact Or.inr admissible
  | createBuffer _ _ _ _ _ _ =>
    cases named
    exact Or.inr admissible.2
  | destroyPool _ =>
    cases named
    exact Or.inr admissible.1
  | destroyBuffer _ => cases named

/-- **Handles are made once.** -/
theorem Disciplined.nodup_made (disciplined : Disciplined log) :
    (log.filterMap Request.made?).Nodup := by
  induction log using List.reverseRecOn with
  | nil => exact List.nodup_nil
  | append_singleton log request ih =>
    obtain ⟨before, admissible⟩ := disciplined_append_singleton.mp disciplined
    rw [List.filterMap_append]
    refine (ih before).append ?_ ?_
    · cases made : request.made? <;> simp [made]
    · intro id old new
      obtain ⟨other, member, sameId⟩ := List.mem_filterMap.mp old
      obtain ⟨_, here, made⟩ := List.mem_filterMap.mp new
      rw [List.mem_singleton.mp here] at made
      exact admissible.unused made other member sameId

/-- Only one request makes a handle. -/
theorem Disciplined.eq_of_made (disciplined : Disciplined log) {request other : Request}
    (member : request ∈ log) (otherMember : other ∈ log) {id : Handle}
    (made : request.made? = some id) (otherMade : other.made? = some id) : request = other := by
  induction log using List.reverseRecOn with
  | nil => cases member
  | append_singleton log last ih =>
    obtain ⟨before, admissible⟩ := disciplined_append_singleton.mp disciplined
    rcases List.mem_append.mp member with old | new
    · rcases List.mem_append.mp otherMember with otherOld | otherNew
      · exact ih before old otherOld
      · rw [List.mem_singleton.mp otherNew] at otherMade
        exact absurd made (admissible.unused otherMade request old)
    · rcases List.mem_append.mp otherMember with otherOld | otherNew
      · rw [List.mem_singleton.mp new] at made
        exact absurd otherMade (admissible.unused made other otherOld)
      · rw [List.mem_singleton.mp new, List.mem_singleton.mp otherNew]

/-- A buffer is made from one pool. -/
theorem Disciplined.pool_eq (disciplined : Disciplined log) {buffer pool other : Handle}
    (made : MadeFrom log buffer pool) (otherMade : MadeFrom log buffer other) : pool = other := by
  obtain ⟨_, _, _, _, member⟩ := made
  obtain ⟨_, _, _, _, otherMember⟩ := otherMade
  have same := disciplined.eq_of_made member otherMember rfl rfl
  cases same
  rfl

/-- A pool that is named was made. -/
theorem Disciplined.exists_createPool (disciplined : Disciplined log) {request : Request}
    (member : request ∈ log) {pool : Handle} (named : request.pool? = some pool) :
    ∃ size, .createPool pool size ∈ log := by
  obtain ⟨earlier, later, rfl⟩ := List.append_of_mem member
  rcases (disciplined earlier request later rfl).made_or_live named with
    ⟨size, rfl⟩ | ⟨⟨size, made⟩, -⟩
  · exact ⟨size, member⟩
  · exact ⟨size, List.mem_append_left _ made⟩

/-- A buffer that is given up was made. -/
theorem Disciplined.exists_madeFrom (disciplined : Disciplined log) {buffer : Handle}
    (member : .destroyBuffer buffer ∈ log) : ∃ pool, MadeFrom log buffer pool := by
  obtain ⟨earlier, later, rfl⟩ := List.append_of_mem member
  obtain ⟨pool, made, -⟩ := disciplined earlier (.destroyBuffer buffer) later rfl
  exact ⟨pool, made.append _⟩

/-- **A pool that was given up is not named again.** -/
theorem Disciplined.unnamed_after_destroyPool {earlier later : List Request} {pool : Handle}
    (disciplined : Disciplined (earlier ++ .destroyPool pool :: later)) {request : Request}
    (member : request ∈ later) : request.pool? ≠ some pool := by
  intro named
  -- when the request came, the pool had been made and given up
  obtain ⟨between, rest, rfl⟩ := List.append_of_mem member
  have admissible := disciplined (earlier ++ .destroyPool pool :: between) request rest (by simp)
  obtain ⟨⟨⟨size, made⟩, -⟩, -⟩ := disciplined earlier (.destroyPool pool) _ rfl
  rcases admissible.made_or_live named with ⟨again, rfl⟩ | ⟨-, there⟩
  · exact admissible _ (List.mem_append_left _ made) rfl
  · exact there (by simp)

end RequestLog

end CursorThemes
