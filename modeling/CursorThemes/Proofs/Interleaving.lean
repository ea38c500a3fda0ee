import CursorThemes.Proofs.Lifetime
import CursorThemes.Proofs.Renaming
import Mathlib.Order.Monotone.Basic

/-! # Themes beside each other

Themes that share a host do not influence each other. Whatever else happens at the host, a theme is
loaded, presented and dropped as if it were alone there, and of its pool the host hears the same; only
the handles have other numbers.

* **`RequestLog.about`** is the part of a log that concerns one pool. Serving another pool does not
  change it.
* **`Session.Keeps`** says what a session has at one place and of one pool, and **`Session.Keeps.step`**
  that actions at other places leave this alone.
* **`Session.Beside`** relates a session to one in which a theme is alone. It is kept by the actions at
  the place of the theme, which are taken in both sessions, and by all others, which are taken in one.
* **`Session.beside_as_alone`** is the result. -/

namespace CursorThemes

open RequestLog

/-! ## The part of a log that concerns a pool -/

/-- Whether a request makes a buffer from a pool. -/
def Request.makes (buffer pool : Handle) : Request → Bool
  | createBuffer id source _ _ _ _ => id == buffer && source == pool
  | createPool _ _ | resizePool _ _ | destroyPool _ | destroyBuffer _ => false

/-- A buffer was made from a pool if a request of the log did so. -/
theorem RequestLog.madeFrom_iff_any {log : List Request} {buffer pool : Handle} :
    MadeFrom log buffer pool ↔ log.any (Request.makes buffer pool) = true := by
  rw [List.any_eq_true]
  constructor
  · rintro ⟨offset, width, height, stride, member⟩
    exact ⟨_, member, by simp [Request.makes]⟩
  · rintro ⟨request, member, makes⟩
    cases request with
    | createBuffer id source offset width height stride =>
      simp only [Request.makes, Bool.and_eq_true, beq_iff_eq] at makes
      obtain ⟨rfl, rfl⟩ := makes
      exact ⟨offset, width, height, stride, member⟩
    | createPool _ _ => cases makes
    | resizePool _ _ => cases makes
    | destroyPool _ => cases makes
    | destroyBuffer _ => cases makes

instance (log : List Request) (buffer pool : Handle) : Decidable (MadeFrom log buffer pool) :=
  decidable_of_iff _ madeFrom_iff_any.symm

/-- The end of a buffer concerns the pool that it was made from. -/
theorem Request.concerns_destroyBuffer_iff {log : List Request} {buffer pool : Handle} :
    (destroyBuffer buffer).Concerns log pool ↔ MadeFrom log buffer pool := by
  constructor
  · rintro (named | ⟨given, same, made⟩)
    · cases named
    · cases same
      exact made
  · intro made
    exact Or.inr ⟨buffer, rfl, made⟩

/-- A request that is not the end of a buffer concerns the pool that it names. -/
theorem Request.concerns_iff_of_pool? {log : List Request} {request : Request} {named pool : Handle}
    (names : request.pool? = some named) : request.Concerns log pool ↔ named = pool := by
  constructor
  · rintro (same | ⟨buffer, rfl, -⟩)
    · rw [names, Option.some.injEq] at same
      exact same
    · cases names
  · rintro rfl
    exact Or.inl names

instance (log : List Request) (pool : Handle) :
    (request : Request) → Decidable (request.Concerns log pool)
  | .createPool _ _ | .resizePool _ _ | .createBuffer _ _ _ _ _ _ | .destroyPool _ =>
    decidable_of_iff _ (Request.concerns_iff_of_pool? rfl).symm
  | .destroyBuffer _ => decidable_of_iff _ Request.concerns_destroyBuffer_iff.symm

namespace RequestLog

/-- **The part of a log that concerns one pool**: the requests that name it, and the ends of the
buffers that were made from it. -/
def about (log : List Request) (pool : Handle) : List Request :=
  log.filter fun request => request.Concerns log pool

/-- What comes first in a disciplined log is disciplined. -/
theorem Disciplined.of_append {log later : List Request} (disciplined : Disciplined (log ++ later)) :
    Disciplined log := by
  intro earlier request rest split
  refine disciplined earlier request (rest ++ later) ?_
  rw [split, List.append_assoc, List.cons_append]

/-- Which pool a request concerns does not change when the log goes on. -/
theorem Disciplined.concerns_append_iff {log later : List Request}
    (disciplined : Disciplined (log ++ later)) {request : Request} (member : request ∈ log)
    (pool : Handle) : request.Concerns (log ++ later) pool ↔ request.Concerns log pool := by
  constructor
  · rintro (named | ⟨buffer, rfl, made⟩)
    · exact Or.inl named
    · -- a buffer that was given up had been made before, and no buffer is made from two pools
      obtain ⟨source, before⟩ := disciplined.of_append.exists_madeFrom member
      obtain rfl := disciplined.pool_eq (before.append later) made
      exact Or.inr ⟨buffer, rfl, before⟩
  · rintro (named | ⟨buffer, rfl, made⟩)
    · exact Or.inl named
    · exact Or.inr ⟨buffer, rfl, made.append later⟩

/-- A request concerns one pool. -/
theorem Disciplined.eq_of_concerns {log : List Request} (disciplined : Disciplined log)
    {request : Request} {pool other : Handle} (concerns : request.Concerns log pool)
    (otherConcerns : request.Concerns log other) : pool = other := by
  rcases concerns with named | ⟨buffer, rfl, made⟩
  · exact ((Request.concerns_iff_of_pool? named).mp otherConcerns)
  · exact disciplined.pool_eq made (Request.concerns_destroyBuffer_iff.mp otherConcerns)

/-- When a log goes on, so does the part that concerns a pool. -/
theorem Disciplined.about_append {log later : List Request}
    (disciplined : Disciplined (log ++ later)) (pool : Handle) :
    about (log ++ later) pool
      = about log pool ++ later.filter fun request => request.Concerns (log ++ later) pool := by
  have before : (log.filter fun request => request.Concerns (log ++ later) pool) = about log pool := by
    refine List.filter_congr fun request member => ?_
    exact decide_eq_decide.mpr (disciplined.concerns_append_iff member pool)
  rw [about, List.filter_append, before]

end RequestLog

namespace Host

/-- What is sent to serve a pool is about this pool. -/
theorem Serves.about_self {before after : Host} {pool : Handle} (serves : before.Serves pool after)
    (orderly : after.Orderly) {sent : List Request}
    (requests : after.requests = before.requests ++ sent) :
    about after.requests pool = about before.requests pool ++ sent := by
  obtain ⟨further, same, concerns⟩ := serves.sends
  obtain rfl : further = sent := List.append_cancel_left (same.symm.trans requests)
  have disciplined := orderly.disciplined
  rw [requests] at disciplined concerns ⊢
  rw [disciplined.about_append, List.filter_eq_self.mpr]
  intro request member
  exact decide_eq_true (concerns request member)

/-- **What is sent to serve one pool is not about another one.** -/
theorem Serves.about_of_ne {before after : Host} {pool other : Handle}
    (serves : before.Serves other after) (orderly : after.Orderly) (apart : pool ≠ other) :
    about after.requests pool = about before.requests pool := by
  obtain ⟨sent, requests, concerns⟩ := serves.sends
  have disciplined := orderly.disciplined
  rw [requests] at disciplined concerns ⊢
  rw [disciplined.about_append, List.filter_eq_nil_iff.mpr, List.append_nil]
  intro request member concerned
  exact apart (disciplined.eq_of_concerns (of_decide_eq_true concerned) (concerns request member))

/-- Nothing is about a pool that was not made. -/
theorem Orderly.about_next {host : Host} (orderly : host.Orderly) :
    about host.requests (host.lastHandle + 1) = [] := by
  refine List.filter_eq_nil_iff.mpr fun request member concerned => ?_
  rcases of_decide_eq_true concerned with named | ⟨buffer, -, offset, width, height, stride, made⟩
  · exact orderly.unnamed member named
  · exact orderly.unnamed made rfl

end Host

/-! ## Handles in use -/

/-- The handles in a request. -/
def Request.handles : Request → List Handle
  | createPool id _ | resizePool id _ | destroyPool id | destroyBuffer id => [id]
  | createBuffer id pool _ _ _ _ => [id, pool]

/-- The names of other handles than those in a request do not matter for it. -/
theorem Request.renamed_congr {names others : Handle → Handle} {request : Request}
    (same : ∀ id ∈ request.handles, names id = others id) :
    request.renamed names = request.renamed others := by
  cases request <;> simp_all [handles, renamed]

/-- The handles in a log were given out. -/
theorem Host.Orderly.handles_le {host : Host} (orderly : host.Orderly) {request : Request}
    (member : request ∈ host.requests) : ∀ id ∈ request.handles, id ≤ host.lastHandle := by
  intro id inside
  cases request with
  | createBuffer buffer pool _ _ _ _ =>
    rcases List.mem_pair.mp inside with rfl | rfl
    · exact orderly.made_le _ member id rfl
    · exact orderly.le_of_pool? member rfl
  | destroyBuffer buffer =>
    obtain ⟨pool, made⟩ := orderly.disciplined.exists_madeFrom member
    rw [List.mem_singleton.mp inside]
    exact orderly.le_of_madeFrom made
  | createPool pool _ | resizePool pool _ | destroyPool pool =>
    rw [List.mem_singleton.mp inside]
    exact orderly.le_of_pool? member rfl

/-- The names of handles that were not given out yet do not matter for a theme. -/
theorem Host.Knows.renamed_congr {host : Host} {theme : Theme} (knows : host.Knows theme)
    (orderly : host.Orderly) {names others : Handle → Handle}
    (same : ∀ id ≤ host.lastHandle, names id = others id) :
    theme.renamed names = theme.renamed others := by
  have pool : names theme.pool.handle = others theme.pool.handle :=
    same _ (orderly.le_of_livePool knows.tenancy.live)
  have image : ∀ image ∈ theme.images, image.renamed names = image.renamed others := by
    intro image member
    have buffer : image.buffer.map names = image.buffer.map others := by
      cases given : image.buffer with
      | none => rfl
      | some buffer =>
        have mine : buffer ∈ theme.buffers := List.mem_filterMap.mpr ⟨image, member, given⟩
        have made := ((knows.tenancy.buffers buffer).mp mine).1
        exact congrArg some (same buffer (orderly.le_of_madeFrom made))
    rw [Image.renamed, Image.renamed, knows.tenancy.inside image member, pool, buffer]
  have cursors : theme.cursors.map (Cursor.renamed names)
      = theme.cursors.map (Cursor.renamed others) := by
    refine List.map_congr_left fun cursor member => ?_
    have images : cursor.images.map (Image.renamed names)
        = cursor.images.map (Image.renamed others) := by
      refine List.map_congr_left fun one there => image one ?_
      exact List.mem_flatMap.mpr ⟨cursor, member, there⟩
    rw [Cursor.renamed, Cursor.renamed, images]
  rw [Theme.renamed, Theme.renamed, Pool.renamed, Pool.renamed, cursors, pool]

/-! ## What is done to a theme under other names -/

namespace Theme

/-- The images of a theme under other names. -/
@[simp] theorem images_renamed (names : Handle → Handle) (theme : Theme) :
    (theme.renamed names).images = theme.images.map (Image.renamed names) := by
  rw [images, images, renamed, List.flatMap_map, List.map_flatMap]
  rfl

/-- Image `j` of cursor `i` under other names. -/
theorem image?_renamed (names : Handle → Handle) (theme : Theme) (i j : Nat) :
    (theme.renamed names).image? i j = (theme.image? i j).map (Image.renamed names) := by
  simp only [image?, renamed, List.getElem?_map]
  cases theme.cursors[i]? with
  | none => rfl
  | some cursor =>
    simp only [Option.map_some, Option.bind_some, Cursor.renamed, List.getElem?_map]

/-- An image that is there is there under other names. -/
theorem image?_renamed_of_eq_some (names : Handle → Handle) {theme : Theme} {i j : Nat} {image : Image}
    (found : theme.image? i j = some image) :
    (theme.renamed names).image? i j = some (image.renamed names) := by
  rw [image?_renamed, found, Option.map_some]

/-- Another image is put into a theme under other names. -/
theorem putImage_renamed (names : Handle → Handle) (theme : Theme) (i j : Nat) (image : Image) :
    (theme.putImage i j image).renamed names
      = (theme.renamed names).putImage i j (image.renamed names) := by
  have there : (theme.renamed names).cursors[i]? = theme.cursors[i]?.map (Cursor.renamed names) :=
    List.getElem?_map
  unfold putImage
  rw [there]
  cases theme.cursors[i]? with
  | none => rfl
  | some cursor => simp only [renamed, Cursor.renamed, Option.map_some, List.map_set]

/-- A theme ends the same under other names. -/
theorem destroy_mirrors {names : Handle → Handle} {theme : Theme} {host twin : Host}
    {logs : List Request × List Request}
    (mirrors : host.Mirrors names theme.pool.handle logs twin)
    (inside : ∀ image ∈ theme.images, image.pool = theme.pool.handle) :
    (theme.destroy host).Mirrors names theme.pool.handle logs
      ((theme.renamed names).destroy twin) := by
  rw [destroy_eq, destroy_eq, images_renamed]
  exact ((mirrors.destroy_all inside).of_alike (Host.alike_log _ _) (Host.alike_log _ _)).release

end Theme

namespace Session

/-! ## What other places do not change -/

/-- The place of an action. -/
def Action.place : Action → Nat
  | .load place _ _ _ _ => place
  | .present place _ _ => place
  | .drop place => place

/-- **What a session has at a place, and what its log says about a pool** that no theme at another
place has. -/
structure Keeps (session : Session) (place : Nat) (pool : Handle) (theme : Option Theme)
    (log : List Request) : Prop where
  /-- The session is sound. -/
  sound : session.Sound
  /-- The pool was made. -/
  given : pool ≤ session.host.lastHandle
  /-- This theme is at the place, or none. -/
  theme : session.themes place = theme
  /-- The pool is that of no other theme. -/
  others : ∀ {other second}, other ≠ place → session.themes other = some second →
    second.pool.handle ≠ pool
  /-- The log says this about the pool. -/
  log : about session.host.requests pool = log

variable {session : Session} {place : Nat} {pool : Handle} {theme : Option Theme}
variable {log : List Request}

/-- Another pool is served for another place. -/
theorem Keeps.settle (keeps : session.Keeps place pool theme log) {other : Nat}
    {new : Option Theme} {served : Handle} {host : Host} (sound : (session.settle other new host).Sound)
    (serves : session.host.Serves served host) (apart : pool ≠ served) (elsewhere : other ≠ place)
    (handle : ∀ second, new = some second → second.pool.handle = served) :
    (session.settle other new host).Keeps place pool theme log where
  sound := sound
  given := le_trans keeps.given serves.lastHandle_le
  theme := by rw [themes_settle_of_ne _ elsewhere.symm, keeps.theme]
  others := by
    intro third second h there
    by_cases same : third = other
    · subst same
      rw [themes_settle_self] at there
      rw [handle second there]
      exact apart.symm
    · rw [themes_settle_of_ne _ same] at there
      exact keeps.others h there
  log := (serves.about_of_ne sound.orderly apart).trans keeps.log

/-- The theme at another place goes. -/
theorem Keeps.drop (keeps : session.Keeps place pool theme log) {other : Nat}
    (elsewhere : other ≠ place) : (session.drop other).Keeps place pool theme log := by
  unfold Session.drop
  cases there : session.themes other with
  | none => exact keeps
  | some second =>
    obtain ⟨-, -, serves⟩ :=
      Theme.destroy_spec keeps.sound.orderly (keeps.sound.knows there).tenancy
    refine keeps.settle (lasting_sound.drop there keeps.sound) serves
      (keeps.others elsewhere there).symm elsewhere ?_
    intro new none
    cases none

/-- **Actions at other places** leave alone what a session has at a place. -/
theorem Keeps.step (keeps : session.Keeps place pool theme log) {action : Action}
    (elsewhere : action.place ≠ place) : (session.step action).Keeps place pool theme log := by
  cases action with
  | load other name size loader trouble =>
    have freed := keeps.drop elsewhere
    rcases load_cases session other name size loader trouble with unchanged | ⟨second, loaded, after⟩
    · rw [Session.step, unchanged]
      exact freed
    · rw [Session.step, after]
      have fills := Theme.load_fills freed.sound.orderly loaded
      refine freed.settle (lasting_sound.fill (themes_drop_self session other) loaded freed.sound)
        fills.serves ?_ elsewhere ?_
      · -- the pool of the new theme was made just now
        rw [fills.handle]
        exact Nat.ne_of_lt (Nat.lt_succ_of_le freed.given)
      · rintro new same
        cases same
        rfl
  | present other i j =>
    rw [Session.step]
    cases presented : session.present? other i j with
    | none => exact keeps
    | some result =>
      obtain ⟨buffer, after⟩ := result
      obtain ⟨second, image, there, found, ⟨-, rfl⟩ | ⟨fresh, -, rfl⟩⟩ := present?_cases presented
      · exact keeps
      · obtain ⟨-, -, serves⟩ :=
          (keeps.sound.knows there).after_present keeps.sound.orderly found fresh
        refine keeps.settle (lasting_sound.handOut there found fresh keeps.sound) serves
          (keeps.others elsewhere there).symm elsewhere ?_
        rintro new same
        cases same
        exact congrArg Pool.handle (Theme.pool_putImage _ _ _ _)
  | drop other => exact keeps.drop elsewhere

/-! ## A theme beside others and alone -/

/-- **A session has at a place what another session has there alone**, under other names: the theme,
and what the log says about its pool. Handles come in the same order, and the next ones
correspond. -/
structure Beside (names : Handle → Handle) (pool : Handle) (place : Nat) (alone shared : Session) :
    Prop where
  /-- Handles come in the same order. -/
  strictMono : StrictMono names
  /-- The next handles correspond. -/
  next : ∀ k, names (alone.host.lastHandle + (k + 1)) = shared.host.lastHandle + (k + 1)
  /-- The session with the theme alone is sound. -/
  sound : alone.Sound
  /-- The pool was made. -/
  given : pool ≤ alone.host.lastHandle
  /-- The pool is that of the theme, if it is still there. -/
  handle : ∀ theme, alone.themes place = some theme → theme.pool.handle = pool
  /-- The other session keeps the theme and the requests about its pool. -/
  keeps : shared.Keeps place (names pool) ((alone.themes place).map (Theme.renamed names))
    (alone.host.requests.map (Request.renamed names))

variable {names : Handle → Handle} {alone shared : Session}

/-- The theme under the other names is there in the other session. -/
theorem Beside.themes (beside : Beside names pool place alone shared) {theme : Theme}
    (there : alone.themes place = some theme) :
    shared.themes place = some (theme.renamed names) := by
  rw [beside.keeps.theme, there, Option.map_some]

/-- The sessions mirror each other until the next request, as far as the pool is concerned, if the
theme is there. -/
theorem Beside.mirrors (beside : Beside names pool place alone shared) {theme : Theme}
    (there : alone.themes place = some theme) :
    alone.host.Mirrors names pool (alone.host.requests, shared.host.requests) shared.host := by
  -- in both sessions the pool is held once for every image and once more
  have count := (beside.sound.knows there).tenancy.count
  have sharedCount := (beside.keeps.sound.knows (beside.themes there)).tenancy.count
  rw [Theme.images_renamed, List.length_map, ← count, beside.handle theme there] at sharedCount
  refine ⟨⟨[], ?_, ?_⟩, beside.next, ?_⟩
  · rw [List.append_nil]
  · rw [List.map_nil, List.append_nil]
  · rw [← sharedCount]
    exact congrArg (fun id => shared.host.holds.count (names id)) (beside.handle theme there).symm

/-- **The theme goes on in both sessions**, by steps that mirror each other. -/
theorem Beside.settle (beside : Beside names pool place alone shared) {new : Option Theme}
    {host twin : Host} (sound : (alone.settle place new host).Sound)
    (sharedSound : (shared.settle place (new.map (Theme.renamed names)) twin).Sound)
    (mirrors : host.Mirrors names pool (alone.host.requests, shared.host.requests) twin)
    (serves : alone.host.Serves pool host) (sharedServes : shared.host.Serves (names pool) twin)
    (handle : ∀ theme, new = some theme → theme.pool.handle = pool) :
    Beside names pool place (alone.settle place new host)
      (shared.settle place (new.map (Theme.renamed names)) twin) where
  strictMono := beside.strictMono
  next := mirrors.next
  sound := sound
  given := le_trans beside.given serves.lastHandle_le
  handle := by
    intro theme there
    rw [themes_settle_self] at there
    exact handle theme there
  keeps :=
    { sound := sharedSound
      given := le_trans beside.keeps.given sharedServes.lastHandle_le
      theme := by rw [themes_settle_self, themes_settle_self]
      others := by
        intro other second h there
        rw [themes_settle_of_ne _ h] at there
        exact beside.keeps.others h there
      log := by
        -- what is sent now is about the pool, and it is the same in both sessions
        obtain ⟨sent, requests, sharedRequests⟩ := mirrors.requests
        have told := sharedServes.about_self sharedSound.orderly sharedRequests
        rw [host_settle, host_settle, told, beside.keeps.log, requests, List.map_append] }

/-- An image is given its buffer in both sessions. -/
theorem Beside.handOut (beside : Beside names pool place alone shared) {theme : Theme} {i j : Nat}
    {image : Image} (there : alone.themes place = some theme)
    (found : theme.image? i j = some image) (fresh : image.buffer = none) :
    Beside names pool place (alone.handOut place theme i j image)
      (shared.handOut place (theme.renamed names) i j (image.renamed names)) := by
  have sharedThere := beside.themes there
  have sharedFound := Theme.image?_renamed_of_eq_some names found
  have sharedFresh : (image.renamed names).buffer = none := by
    rw [Image.renamed, fresh, Option.map_none]
  -- the next handle of the one session is the name of the next handle of the other
  have next : names (alone.host.lastHandle + 1) = shared.host.lastHandle + 1 := beside.next 0
  have handle := beside.handle theme there
  have put : (some (theme.putImage i j
        { image with buffer := some (alone.host.lastHandle + 1) })).map (Theme.renamed names)
      = some ((theme.renamed names).putImage i j
          { image.renamed names with buffer := some (shared.host.lastHandle + 1) }) := by
    rw [Option.map_some, Theme.putImage_renamed, ← next]
    rfl
  obtain ⟨-, -, serves⟩ :=
    (beside.sound.knows there).after_present beside.sound.orderly found fresh
  obtain ⟨-, -, sharedServes⟩ :=
    (beside.keeps.sound.knows sharedThere).after_present beside.keeps.sound.orderly sharedFound
      sharedFresh
  have sound := lasting_sound.handOut there found fresh beside.sound
  have sharedSound := lasting_sound.handOut sharedThere sharedFound sharedFresh beside.keeps.sound
  unfold Session.handOut at sound sharedSound ⊢
  rw [← put] at sharedSound ⊢
  rw [handle] at serves
  refine beside.settle sound sharedSound ((beside.mirrors there).acquire fun _ => rfl) serves ?_ ?_
  · rw [← handle]
    exact sharedServes
  · rintro new same
    cases same
    rw [Theme.pool_putImage, handle]

/-- **An image is presented in both sessions**, or is there in none of them. -/
theorem Beside.present (beside : Beside names pool place alone shared) (i j : Nat) :
    alone.present? place i j = none ∧ shared.present? place i j = none ∨
      ∃ buffer after done, alone.present? place i j = some (buffer, after) ∧
        shared.present? place i j = some (names buffer, done) ∧
        Beside names pool place after done := by
  have shown : ((shared.themes place).bind fun theme => theme.image? i j)
      = ((alone.themes place).bind fun theme => theme.image? i j).map (Image.renamed names) := by
    rw [beside.keeps.theme]
    cases alone.themes place with
    | none => rfl
    | some theme => exact theme.image?_renamed names i j
  cases found : (alone.themes place).bind fun theme => theme.image? i j with
  | none =>
    rw [found, Option.map_none] at shown
    exact Or.inl ⟨present?_eq_none found, present?_eq_none shown⟩
  | some image =>
    refine Or.inr ?_
    obtain ⟨theme, there, inTheme⟩ := Option.bind_eq_some_iff.mp found
    have sharedThere := beside.themes there
    have sharedInTheme := Theme.image?_renamed_of_eq_some names inTheme
    have buffer : (image.renamed names).buffer = image.buffer.map names := rfl
    cases given : image.buffer with
    | some id =>
      rw [given, Option.map_some] at buffer
      exact ⟨id, alone, shared, present?_of_buffer there inTheme given,
        present?_of_buffer sharedThere sharedInTheme buffer, beside⟩
    | none =>
      rw [given, Option.map_none] at buffer
      have next : names (alone.host.lastHandle + 1) = shared.host.lastHandle + 1 := beside.next 0
      refine ⟨_, _, _, present?_of_fresh there inTheme given, ?_,
        beside.handOut there inTheme given⟩
      rw [present?_of_fresh sharedThere sharedInTheme buffer, next]

/-- **The theme goes in both sessions**, or is there in none of them. -/
theorem Beside.drop (beside : Beside names pool place alone shared) :
    Beside names pool place (alone.drop place) (shared.drop place) := by
  cases there : alone.themes place with
  | none =>
    have sharedGone : shared.themes place = none := by
      rw [beside.keeps.theme, there, Option.map_none]
    rw [Session.drop, Session.drop, there, sharedGone]
    exact beside
  | some theme =>
    have sharedThere := beside.themes there
    have handle := beside.handle theme there
    have tenancy := (beside.sound.knows there).tenancy
    obtain ⟨-, -, serves⟩ := Theme.destroy_spec beside.sound.orderly tenancy
    obtain ⟨-, -, sharedServes⟩ :=
      Theme.destroy_spec beside.keeps.sound.orderly (beside.keeps.sound.knows sharedThere).tenancy
    have mirrors := beside.mirrors there
    rw [← handle] at mirrors
    have ended := Theme.destroy_mirrors mirrors tenancy.inside
    rw [handle] at serves ended
    rw [Session.drop, Session.drop, there, sharedThere]
    refine beside.settle (lasting_sound.drop there beside.sound)
      (lasting_sound.drop sharedThere beside.keeps.sound) ended serves ?_ ?_
    · rw [← handle]
      exact sharedServes
    · rintro new none
      cases none

/-- Whether an action loads a theme into a place. -/
def Action.loads (place : Nat) : Action → Bool
  | .load other _ _ _ _ => other == place
  | .present _ _ _ | .drop _ => false

/-- **What is done with the theme is done in both sessions.** -/
theorem Beside.step_own (beside : Beside names pool place alone shared) {action : Action}
    (own : action.place = place) (once : action.loads place = false) :
    Beside names pool place (alone.step action) (shared.step action) := by
  cases action with
  | load other name size loader trouble =>
    simp only [Action.loads, beq_eq_false_iff_ne] at once
    exact absurd own once
  | present other i j =>
    obtain rfl : other = place := own
    rw [Session.step, Session.step]
    rcases beside.present i j with ⟨gone, sharedGone⟩ | ⟨buffer, after, done, here, there, still⟩
    · rw [gone, sharedGone]
      exact beside
    · rw [here, there]
      exact still
  | drop other =>
    obtain rfl : other = place := own
    exact beside.drop

/-- Handles are not taken back. -/
theorem lasting_lastHandle (least : Handle) :
    Lasting fun session => session.Sound ∧ least ≤ session.host.lastHandle where
  drop {session place theme} there holds := by
    obtain ⟨sound, le⟩ := holds
    obtain ⟨-, -, serves⟩ :=
      Theme.destroy_spec sound.orderly (sound.knows there).tenancy
    exact ⟨lasting_sound.drop there sound, le_trans le serves.lastHandle_le⟩
  fill {session place name size loader trouble theme} free loaded holds := by
    obtain ⟨sound, le⟩ := holds
    exact ⟨lasting_sound.fill free loaded sound,
      le_trans le (Theme.load_fills sound.orderly loaded).serves.lastHandle_le⟩
  handOut {session place theme i j image} there found fresh holds := by
    obtain ⟨sound, le⟩ := holds
    exact ⟨lasting_sound.handOut there found fresh sound, Nat.le_succ_of_le le⟩

/-- The names after some more handles were given out elsewhere: those up to `last` stay, and those
behind it come later. -/
def postpone (names : Handle → Handle) (last more : Nat) (id : Handle) : Handle :=
  if id ≤ last then names id else names id + more

/-- Handles still come in the same order. -/
theorem strictMono_postpone (ordered : StrictMono names) (last more : Nat) :
    StrictMono (postpone names last more) := by
  intro first second before
  have kept := ordered before
  unfold postpone
  by_cases early : second ≤ last
  · rw [if_pos (le_trans (Nat.le_of_lt before) early), if_pos early]
    exact kept
  · rw [if_neg early]
    split
    · exact lt_of_lt_of_le kept (Nat.le_add_right _ _)
    · exact Nat.add_lt_add_right kept more

/-- Other names for handles that the session with the theme alone has not given out do not matter. -/
theorem Beside.renamed_congr (beside : Beside names pool place alone shared)
    {others : Handle → Handle} (same : ∀ id ≤ alone.host.lastHandle, others id = names id) :
    (alone.themes place).map (Theme.renamed others)
        = (alone.themes place).map (Theme.renamed names) ∧
      alone.host.requests.map (Request.renamed others)
        = alone.host.requests.map (Request.renamed names) := by
  refine ⟨?_, ?_⟩
  · refine Option.map_congr fun theme there => ?_
    exact (beside.sound.knows there).renamed_congr beside.sound.orderly same
  · refine List.map_congr_left fun request member => Request.renamed_congr fun id inside => ?_
    exact same id (beside.sound.orderly.handles_le member id inside)

/-- **What is done elsewhere is done in one session only.** The handles that are given out there are
left out among the names. -/
theorem Beside.step_other (beside : Beside names pool place alone shared) {action : Action}
    (elsewhere : action.place ≠ place) :
    ∃ others, (∀ id ≤ alone.host.lastHandle, others id = names id) ∧
      Beside others pool place alone (shared.step action) := by
  obtain ⟨-, le⟩ := (lasting_lastHandle shared.host.lastHandle).step
    ⟨beside.keeps.sound, le_refl _⟩ action
  obtain ⟨more, further⟩ := Nat.exists_eq_add_of_le le
  -- what the theme and its log name was given out before, so they do not see the new names
  have same : ∀ id ≤ alone.host.lastHandle,
      postpone names alone.host.lastHandle more id = names id := fun id given => if_pos given
  refine ⟨postpone names alone.host.lastHandle more, same, ?_⟩
  obtain ⟨theme, requests⟩ := beside.renamed_congr same
  refine ⟨strictMono_postpone beside.strictMono _ _, ?_, beside.sound, beside.given, beside.handle, ?_⟩
  · intro k
    have later : ¬ alone.host.lastHandle + (k + 1) ≤ alone.host.lastHandle :=
      Nat.not_le.mpr (Nat.lt_add_of_pos_right (Nat.succ_pos k))
    rw [postpone, if_neg later, beside.next, further, Nat.add_right_comm]
  · rw [same pool beside.given, theme, requests]
    exact beside.keeps.step elsewhere

/-- **Any actions** are taken in one session, and those at the place of the theme in both. -/
theorem Beside.run (beside : Beside names pool place alone shared) {actions : List Action}
    (once : ∀ action ∈ actions, action.loads place = false) :
    ∃ others, (∀ id ≤ alone.host.lastHandle, others id = names id) ∧
      Beside others pool place (alone.run (actions.filter (·.place == place)))
        (shared.run actions) := by
  induction actions generalizing names alone shared with
  | nil => exact ⟨names, fun _ _ => rfl, beside⟩
  | cons action later ih =>
    have rest : ∀ other ∈ later, other.loads place = false :=
      fun other member => once other (List.mem_cons_of_mem _ member)
    by_cases own : action.place = place
    · have kept : (action.place == place) = true := beq_iff_eq.mpr own
      rw [List.filter_cons, if_pos kept, run_cons, run_cons]
      obtain ⟨others, same, goesOn⟩ := ih (beside.step_own own (once action List.mem_cons_self)) rest
      refine ⟨others, fun id given => same id (le_trans given ?_), goesOn⟩
      exact ((lasting_lastHandle alone.host.lastHandle).step ⟨beside.sound, le_refl _⟩ action).2
    · have skipped : ¬ (action.place == place) = true := mt beq_iff_eq.mp own
      rw [List.filter_cons, if_neg skipped, run_cons]
      obtain ⟨next, agree, goesOn⟩ := beside.step_other own
      obtain ⟨others, same, still⟩ := ih goesOn rest
      exact ⟨others, fun id given => (same id given).trans (agree id given), still⟩

/-! ## From the load on -/

/-- A new host mirrors any host in order, as far as the next pool is concerned. -/
theorem mirrors_default {host : Host} (orderly : host.Orderly) :
    ({} : Host).Mirrors (host.lastHandle + ·) (({} : Host).lastHandle + 1) ([], host.requests) host := by
  refine ⟨⟨[], rfl, (List.append_nil _).symm⟩, ?_, ?_⟩
  · intro k
    rw [Nat.zero_add]
  · exact (List.count_eq_zero.mpr orderly.unheld).trans (List.count_nil).symm

/-- **A theme is loaded** into a session as it is loaded alone. -/
theorem Sound.load_mirrors {session : Session} (sound : session.Sound) (place : Nat)
    (name : Option String) (size : UInt32) (loader : Loader) (trouble : Trouble) :
    let loading := (session.load place name size loader trouble).1
    let aloneLoading := (load {} place name size loader trouble).1
    let names := ((session.drop place).host.lastHandle + ·)
    loading.outcome = aloneLoading.outcome.map (Theme.renamed names) ∧
      loading.asked = aloneLoading.asked ∧
      aloneLoading.host.Mirrors names 1 ([], (session.drop place).host.requests) loading.host :=
  Theme.load_mirrors _ (mirrors_default (lasting_sound.of_drop sound place).orderly) name size loader
    trouble

/-- A session into which a theme was loaded. -/
theorem load_eq_settle {session : Session} {place : Nat} {name : Option String} {size : UInt32}
    {loader : Loader} {trouble : Trouble} {outcome : Except CursorError Theme}
    (loaded : (session.load place name size loader trouble).1.outcome = outcome) :
    (session.load place name size loader trouble).2
      = (session.drop place).settle place outcome.toOption
          (session.load place name size loader trouble).1.host := by
  rw [← loaded]
  rfl

/-- A load puts the theme that it comes to into its place. -/
theorem themes_load_self {session : Session} {place : Nat} {name : Option String} {size : UInt32}
    {loader : Loader} {trouble : Trouble} {outcome : Except CursorError Theme}
    (loaded : (session.load place name size loader trouble).1.outcome = outcome) :
    (session.load place name size loader trouble).2.themes place = outcome.toOption := by
  rw [load_eq_settle loaded, themes_settle_self]

/-- **A theme begins beside others** as it begins alone. -/
theorem Sound.beside_of_load {session : Session} (sound : session.Sound) {place : Nat}
    {name : Option String} {size : UInt32} {loader : Loader} {trouble : Trouble} {theme : Theme}
    (loaded : (load {} place name size loader trouble).1.outcome = .ok theme) :
    Beside ((session.drop place).host.lastHandle + ·) theme.pool.handle place
      (load {} place name size loader trouble).2 (session.load place name size loader trouble).2 := by
  obtain ⟨outcome, -, mirrors⟩ := sound.load_mirrors place name size loader trouble
  have freed := lasting_sound.of_drop sound place
  rw [loaded] at outcome
  have fills : ({} : Host).Fills theme.pool theme.images
      (load {} place name size loader trouble).1.host :=
    Theme.load_fills Host.orderly_default loaded
  have sharedFills := Theme.load_fills freed.orderly outcome
  obtain ⟨sent, requests, sharedRequests⟩ := mirrors.requests
  rw [load_eq_settle loaded, load_eq_settle outcome]
  refine
    { strictMono := fun first second before => Nat.add_lt_add_left before _
      next := mirrors.next
      sound := lasting_sound.fill rfl loaded sound_default
      given := fills.orderly.le_of_livePool fills.tenancy.live
      handle := ?_
      keeps :=
        { sound := lasting_sound.fill (themes_drop_self session place) outcome freed
          given := sharedFills.orderly.le_of_livePool sharedFills.tenancy.live
          theme := ?_
          others := ?_
          log := ?_ } }
  · intro other there
    rw [themes_settle_self] at there
    cases there
    rfl
  · rw [themes_settle_self, themes_settle_self]
    rfl
  · intro other second h there
    rw [themes_settle_of_ne _ h] at there
    exact freed.handle_ne_of_fills sharedFills there
  · have told := sharedFills.serves.about_self sharedFills.orderly sharedRequests
    rw [sharedFills.handle, freed.orderly.about_next, List.nil_append] at told
    rw [host_settle, host_settle, requests, List.nil_append, ← told]
    exact congrArg (about _) sharedFills.handle

/-- A place stays free while nothing is loaded there. -/
theorem themes_run_eq_none {session : Session} {place : Nat} (free : session.themes place = none)
    {actions : List Action} (once : ∀ action ∈ actions, action.loads place = false) :
    (session.run actions).themes place = none := by
  induction actions generalizing session with
  | nil => exact free
  | cons action later ih =>
    refine ih ?_ fun other member => once other (List.mem_cons_of_mem _ member)
    have unloaded := once action List.mem_cons_self
    by_contra taken
    obtain ⟨theme, there⟩ := Option.ne_none_iff_exists'.mp taken
    by_cases spared : action.Spares place
    · have same := themes_step_of_spares session spared
      rw [free, there] at same
      cases same
    · -- only a load puts a theme into a place
      obtain ⟨name, size, loader, trouble, rfl, -⟩ := exists_load_of_not_spares spared there
      simp [Action.loads] at unloaded

/-- The pixels of image `j` of cursor `i` of the theme at a place. -/
def pixelsAt? (session : Session) (place i j : Nat) : Option (List UInt8) :=
  (session.themes place).bind fun theme => (theme.image? i j).bind theme.pixels?

/-- Pixels are the same under other names. -/
theorem pixelsAt?_eq_of_renamed {names : Handle → Handle}
    (renamed : shared.themes place = (alone.themes place).map (Theme.renamed names)) (i j : Nat) :
    shared.pixelsAt? place i j = alone.pixelsAt? place i j := by
  rw [pixelsAt?, pixelsAt?, renamed]
  cases alone.themes place with
  | none => rfl
  | some theme =>
    rw [Option.map_some, Option.bind_some, Option.bind_some, Theme.image?_renamed]
    cases theme.image? i j <;> rfl

/-- **Themes beside each other.** In any session let anything happen, then let a theme be loaded into
a place, from any loader and with any system calls failing, and let anything happen afterwards but
another load there: other themes come, are presented and go, before it, in between and after it. Compare
this with the session in which only the theme is loaded, and only the actions at its place happen
afterwards. But for the names of handles, which correspond one to one, the load comes to the same theme or
the same error, and asks its loader for the same; the theme that is there in the end is the same,
with its name, its cursors, their images and places, which of these have a buffer, and the capacity,
the bytes given out and all bytes of its pool; the pixels of its images are the same; presenting an
image gives the same buffer; and what the log of the host says about the pool of the theme and the
buffers made from it is all that is requested when the theme is alone. -/
theorem beside_as_alone (before after : List Action) (place : Nat) (name : Option String)
    (size : UInt32) (loader : Loader) (trouble : Trouble)
    (once : ∀ action ∈ after, action.loads place = false) :
    let own := after.filter (·.place == place)
    let alone := run {} (.load place name size loader trouble :: own)
    let shared := run {} (before ++ .load place name size loader trouble :: after)
    let loading := ((run {} before).load place name size loader trouble).1
    let aloneLoading := (load {} place name size loader trouble).1
    ∃ names : Handle → Handle, Function.Injective names ∧
      loading.outcome = aloneLoading.outcome.map (Theme.renamed names) ∧
      loading.asked = aloneLoading.asked ∧
      shared.themes place = (alone.themes place).map (Theme.renamed names) ∧
      (∀ i j, shared.pixelsAt? place i j = alone.pixelsAt? place i j) ∧
      (∀ i j, (shared.present? place i j).map Prod.fst
        = ((alone.present? place i j).map Prod.fst).map names) ∧
      ∀ theme, loading.outcome = .ok theme →
        about shared.host.requests theme.pool.handle
          = alone.host.requests.map (Request.renamed names) := by
  intro own alone shared loading aloneLoading
  have sound : (run {} before).Sound := lasting_sound.run sound_default before
  obtain ⟨outcome, asked, -⟩ := sound.load_mirrors place name size loader trouble
  have split : shared = ((run {} before).load place name size loader trouble).2.run after := by
    simp only [shared, run_append, run_cons, step]
  have aloneSplit : alone = (load {} place name size loader trouble).2.run own := rfl
  rw [split, aloneSplit]
  cases loaded : aloneLoading.outcome with
  | ok theme =>
    have beside := sound.beside_of_load loaded
    obtain ⟨names, same, goesOn⟩ := beside.run once
    have there : (load {} place name size loader trouble).2.themes place = some theme :=
      themes_load_self loaded
    -- the names have changed since the load, but only for handles that were not given out by then
    have renamed := (beside.sound.knows there).renamed_congr beside.sound.orderly same
    have comes : loading.outcome = .ok (theme.renamed names) := by
      rw [renamed]
      exact outcome.trans (congrArg _ loaded)
    refine ⟨names, goesOn.strictMono.injective, comes, asked, goesOn.keeps.theme,
      pixelsAt?_eq_of_renamed goesOn.keeps.theme, ?_, ?_⟩
    · intro i j
      rcases goesOn.present i j with ⟨gone, sharedGone⟩ | ⟨buffer, after, done, here, also, -⟩
      · rw [gone, sharedGone]
        rfl
      · rw [here, also]
        rfl
    · rintro second loadedSecond
      rw [comes, Except.ok.injEq] at loadedSecond
      rw [← loadedSecond]
      exact goesOn.keeps.log
  | error error =>
    have fails : loading.outcome = .error error := outcome.trans (congrArg _ loaded)
    have ownOnce : ∀ action ∈ own, action.loads place = false :=
      fun action member => once action (List.mem_of_mem_filter member)
    have gone := themes_run_eq_none (themes_load_self fails) once
    have aloneGone := themes_run_eq_none (themes_load_self loaded) ownOnce
    refine ⟨(((run {} before).drop place).host.lastHandle + ·), fun _ _ => Nat.add_left_cancel, fails,
      asked, ?_, ?_, ?_, ?_⟩
    · rw [gone, aloneGone, Option.map_none]
    · intro i j
      rw [pixelsAt?, pixelsAt?, gone, aloneGone]
    · intro i j
      rw [present?_eq_none (by rw [gone, Option.bind_none]),
        present?_eq_none (by rw [aloneGone, Option.bind_none])]
      rfl
    · rintro theme came
      rw [fails] at came
      cases came

/-- Two themes of one host. The second one, whose pool is the second thing that is made there, has an
image presented between what is done with the first one. -/
theorem beside_as_alone_of_two :
    let loader : Loader := fun _ _ => .ofSprites [⟨"a", [.dot 1]⟩]
    let before : List Action := [.load 1 none 1 loader {}]
    let after : List Action := [.present 1 0 0, .present 0 0 0, .drop 1, .drop 0]
    let shared := run {} (before ++ .load 0 none 1 loader {} :: after)
    (∀ action ∈ after, action.loads 0 = false) ∧
      shared.host.requests
        = [.createPool 1 4, .createPool 2 4, .createBuffer 3 1 0 1 1 4, .createBuffer 4 2 0 1 1 4,
            .destroyBuffer 3, .destroyPool 1, .destroyBuffer 4, .destroyPool 2] ∧
      ∃ names : Handle → Handle, Function.Injective names ∧
        about shared.host.requests 2
          = [.createPool (names 1) 4, .createBuffer (names 2) (names 1) 0 1 1 4,
              .destroyBuffer (names 2), .destroyPool (names 1)] := by
  intro loader before after shared
  have once : ∀ action ∈ after, action.loads 0 = false := by decide
  have handle : ((run {} before).load 0 none 1 loader {}).1.outcome.map (fun theme => theme.pool.handle)
      = .ok 2 := by decide
  have solo : (run {} (.load 0 none 1 loader {} :: after.filter (·.place == 0))).host.requests
      = [.createPool 1 4, .createBuffer 2 1 0 1 1 4, .destroyBuffer 2, .destroyPool 1] := by decide
  obtain ⟨names, injective, -, -, -, -, -, log⟩ := beside_as_alone before after 0 none 1 loader {} once
  refine ⟨once, by decide, names, injective, ?_⟩
  cases loaded : ((run {} before).load 0 none 1 loader {}).1.outcome with
  | error error =>
    rw [loaded] at handle
    cases handle
  | ok theme =>
    rw [loaded, Except.map, Except.ok.injEq] at handle
    have told := log theme loaded
    rw [handle, solo] at told
    exact told

end Session

end CursorThemes
