import CursorThemes.Proofs.Tenancy

/-! # The life of pools and buffers

However many themes come and go at one host, and in whatever order their images are presented, the
service can follow its log.

* **`Session.Sound`** is the invariant: the host is in order and knows every theme, and no two
  themes share a pool.
* **`Session.Presents`** says what comes of presenting an image, and
  **`Session.Sound.exists_presents`** that every image of a theme can be presented.
* **`Session.bufferAt?`** is the buffer of one image. An image keeps it for as long as its theme is
  there, and nobody else ever gets it.
* **`Session.lifetimes`** is the result. -/

namespace CursorThemes

open RequestLog

/-! ## One theme at a host -/

/-- **How a host knows a theme**: it knows the pool and the images in it, and every buffer that was
ever made from the pool is that of an image. -/
structure Host.Knows (host : Host) (theme : Theme) : Prop where
  /-- The host knows the pool and the images in it. -/
  tenancy : host.Tenancy theme.pool.handle theme.images
  /-- Every buffer made from the pool is that of an image. -/
  issued : ∀ {id offset width height stride},
    .createBuffer id theme.pool.handle offset width height stride ∈ host.requests →
    ∃ image ∈ theme.images, image.buffer = some id ∧
      image.bufferRequest id = .createBuffer id theme.pool.handle offset width height stride

/-- A theme is known as before while another pool is concerned. -/
theorem Host.Knows.of_serves {before after : Host} {pool : Handle} {theme : Theme}
    (knows : before.Knows theme) (orderly : after.Orderly) (serves : before.Serves pool after)
    (apart : theme.pool.handle ≠ pool) : after.Knows theme := by
  refine ⟨knows.tenancy.of_serves orderly serves apart, ?_⟩
  intro id offset width height stride member
  obtain ⟨sent, requests, concerns⟩ := serves.sends
  rw [requests] at member
  rcases List.mem_append.mp member with old | new
  · exact knows.issued old
  · rcases concerns _ new with named | ⟨buffer, same, -⟩
    · cases named
      exact absurd rfl apart
    · cases same

/-- A theme that was loaded is known. -/
theorem Host.Fills.knows {before after : Host} {theme : Theme} (orderly : before.Orderly)
    (fills : before.Fills theme.pool theme.images after) : after.Knows theme := by
  refine ⟨fills.tenancy, ?_⟩
  intro id offset width height stride member
  obtain ⟨sent, requests, sizes⟩ := fills.sizes
  rw [requests] at member
  rcases List.mem_append.mp member with old | new
  · obtain ⟨size, made⟩ := orderly.disciplined.exists_createPool old rfl
    exact absurd (congrArg some fills.handle) (orderly.unused _ made)
  · exact (sizes _ new).elim

/-- **A theme is known after one of its images was given its buffer.** -/
theorem Host.Knows.after_present {host : Host} {theme : Theme} (orderly : host.Orderly)
    (knows : host.Knows theme) {i j : Nat} {image : Image} (found : theme.image? i j = some image)
    (fresh : image.buffer = none) :
    (host.acquire image.bufferRequest).2.Orderly ∧
      (host.acquire image.bufferRequest).2.Knows
        (theme.putImage i j { image with buffer := some (host.lastHandle + 1) }) ∧
      host.Serves theme.pool.handle (host.acquire image.bufferRequest).2 := by
  obtain ⟨front, back, split, replaced⟩ := Theme.exists_images_putImage found
  have tenancy := knows.tenancy
  rw [split] at tenancy
  obtain ⟨after, known, serves⟩ := tenancy.after_present orderly fresh
  refine ⟨after, ⟨?_, ?_⟩, serves⟩
  · rw [Theme.pool_putImage, replaced]
    exact known
  · intro id offset width height stride member
    rw [Theme.pool_putImage] at member ⊢
    rw [replaced]
    rw [Host.requests_acquire] at member
    rcases List.mem_append.mp member with old | new
    · obtain ⟨owner, there, given, request⟩ := knows.issued old
      refine ⟨owner, ?_, given, request⟩
      rw [split, List.mem_append, List.mem_cons] at there
      rw [List.mem_append, List.mem_cons]
      rcases there with first | rfl | last
      · exact Or.inl first
      · rw [fresh] at given
        cases given
      · exact Or.inr (Or.inr last)
    · have request := List.mem_singleton.mp new
      have same : id = host.lastHandle + 1 := congrArg (fun request => request.made?.getD 0) request
      subst same
      exact ⟨_, List.mem_append_right _ List.mem_cons_self, rfl, request.symm⟩

/-- The buffers of a theme are those that were ever made from its pool. -/
theorem Host.Knows.mem_buffers_iff {host : Host} {theme : Theme} (knows : host.Knows theme)
    {buffer : Handle} :
    buffer ∈ theme.buffers ↔ MadeFrom host.requests buffer theme.pool.handle := by
  constructor
  · intro member
    exact ((knows.tenancy.buffers buffer).mp member).1
  · rintro ⟨offset, width, height, stride, member⟩
    obtain ⟨image, there, given, -⟩ := knows.issued member
    exact List.mem_filterMap.mpr ⟨image, there, given⟩

namespace Session

/-! ## The invariant -/

/-- **A sound session.** The host is in order and knows every theme, and no two themes share
a pool. -/
structure Sound (session : Session) : Prop where
  /-- The host is in order. -/
  orderly : session.host.Orderly
  /-- The host knows every theme. -/
  knows : ∀ {place theme}, session.themes place = some theme → session.host.Knows theme
  /-- No two themes share a pool. -/
  apart : ∀ {place other theme second}, session.themes place = some theme →
    session.themes other = some second → theme.pool.handle = second.pool.handle → place = other

/-- A session without themes is sound. -/
theorem sound_default : Sound {} := by
  refine ⟨Host.orderly_default, ?_, ?_⟩
  · intro place theme there
    cases there
  · intro place other theme second there
    cases there

/-- The pools of two themes are different. -/
theorem Sound.handle_ne {session : Session} (sound : session.Sound) {place other : Nat}
    {theme second : Theme} (there : session.themes place = some theme)
    (otherThere : session.themes other = some second) (h : other ≠ place) :
    second.pool.handle ≠ theme.pool.handle := by
  intro same
  exact h (sound.apart otherThere there same)

/-- The pool of a theme that is loaded is none of those that are there. -/
theorem Sound.handle_ne_of_fills {session : Session} (sound : session.Sound) {theme : Theme}
    {host : Host} (fills : session.host.Fills theme.pool theme.images host) {other : Nat}
    {second : Theme} (otherThere : session.themes other = some second) :
    second.pool.handle ≠ theme.pool.handle := by
  intro same
  have given := sound.orderly.le_of_livePool (sound.knows otherThere).tenancy.live
  rw [same, fills.handle] at given
  exact Nat.not_succ_le_self _ given

/-- **A session stays sound** when one theme is replaced, or goes, and only its pool
is concerned. -/
theorem Sound.settle {session : Session} (sound : session.Sound) {place : Nat}
    {theme : Option Theme} {pool : Handle} {host : Host} (orderly : host.Orderly)
    (serves : session.host.Serves pool host)
    (others : ∀ {other second}, other ≠ place → session.themes other = some second →
      second.pool.handle ≠ pool)
    (here : ∀ {new}, theme = some new → new.pool.handle = pool ∧ host.Knows new) :
    (session.settle place theme host).Sound := by
  refine ⟨orderly, ?_, ?_⟩
  · intro other second there
    by_cases same : other = place
    · subst same
      rw [themes_settle_self] at there
      exact (here there).2
    · rw [themes_settle_of_ne _ same] at there
      exact (sound.knows there).of_serves orderly serves (others same there)
  · -- the pool of the theme that is put in is none of the others, and these are as before
    intro one two first second oneThere twoThere same
    by_cases oneHere : one = place
    · by_cases twoHere : two = place
      · rw [oneHere, twoHere]
      · subst oneHere
        rw [themes_settle_self] at oneThere
        rw [themes_settle_of_ne _ twoHere] at twoThere
        rw [(here oneThere).1] at same
        exact absurd same.symm (others twoHere twoThere)
    · rw [themes_settle_of_ne _ oneHere] at oneThere
      by_cases twoHere : two = place
      · subst twoHere
        rw [themes_settle_self] at twoThere
        rw [(here twoThere).1] at same
        exact absurd same (others oneHere oneThere)
      · rw [themes_settle_of_ne _ twoHere] at twoThere
        exact sound.apart oneThere twoThere same

/-- **Soundness lasts.** -/
theorem lasting_sound : Lasting Sound where
  drop {session place theme} there sound := by
    obtain ⟨-, orderly, serves⟩ :=
      Theme.destroy_spec sound.orderly (sound.knows there).tenancy
    refine sound.settle orderly serves ?_ ?_
    · intro other second h otherThere
      exact sound.handle_ne there otherThere h
    · intro new none
      cases none
  fill {session place name size loader trouble theme} free loaded sound := by
    have fills := Theme.load_fills sound.orderly loaded
    refine sound.settle fills.orderly fills.serves ?_ ?_
    · intro other second _ otherThere
      exact sound.handle_ne_of_fills fills otherThere
    · intro new same
      cases same
      exact ⟨rfl, fills.knows sound.orderly⟩
  handOut {session place theme i j image} there found fresh sound := by
    obtain ⟨orderly, knows, serves⟩ := (sound.knows there).after_present sound.orderly found fresh
    refine sound.settle orderly serves ?_ ?_
    · intro other second h otherThere
      exact sound.handle_ne there otherThere h
    · intro new same
      cases same
      exact ⟨congrArg Pool.handle (Theme.pool_putImage _ _ _ _), knows⟩

/-- What was requested stays requested. -/
theorem lasting_mem (request : Request) :
    Lasting fun session => session.Sound ∧ request ∈ session.host.requests where
  drop {session place theme} there holds := by
    obtain ⟨sound, member⟩ := holds
    obtain ⟨requests, -, serves⟩ :=
      Theme.destroy_spec sound.orderly (sound.knows there).tenancy
    exact ⟨lasting_sound.drop there sound, serves.sends.mem member⟩
  fill {session place name size loader trouble theme} free loaded holds := by
    obtain ⟨sound, member⟩ := holds
    exact ⟨lasting_sound.fill free loaded sound,
      (Theme.load_fills sound.orderly loaded).sizes.mem member⟩
  handOut {session place theme i j image} there found fresh holds := by
    obtain ⟨sound, member⟩ := holds
    exact ⟨lasting_sound.handOut there found fresh sound, List.mem_append_left _ member⟩

/-! ## Presenting an image -/

/-- **What comes of presenting an image** of a theme: a buffer that was made from the pool of the
theme, either the one that the image had or one that is requested for it now. -/
structure Presents (session : Session) (theme : Theme) (image : Image) (buffer : Handle)
    (after : Session) : Prop where
  /-- The buffer was made from the pool of the theme. -/
  made : MadeFrom after.host.requests buffer theme.pool.handle
  /-- If the image had a buffer, it is this one, and nothing happens. -/
  again : ∀ given, image.buffer = some given → buffer = given ∧ after = session
  /-- If it had none, the buffer is requested, and nothing else is. -/
  first : image.buffer = none →
    after.host.requests = session.host.requests ++ [image.bufferRequest buffer]

/-- **Every image of a theme can be presented.** -/
theorem Sound.exists_presents {session : Session} (sound : session.Sound) {place i j : Nat}
    {theme : Theme} {image : Image} (there : session.themes place = some theme)
    (found : theme.image? i j = some image) :
    ∃ buffer after, session.present? place i j = some (buffer, after) ∧
      session.Presents theme image buffer after := by
  have knows := sound.knows there
  have inTheme := Theme.mem_images_of_image? found
  cases held : image.buffer with
  | some buffer =>
    refine ⟨buffer, session, present?_of_buffer there found held, ?_, ?_, ?_⟩
    · exact knows.mem_buffers_iff.mp (List.mem_filterMap.mpr ⟨image, inTheme, held⟩)
    · intro given same
      rw [held, Option.some.injEq] at same
      exact ⟨same, rfl⟩
    · intro fresh
      rw [held] at fresh
      cases fresh
  | none =>
    refine ⟨_, _, present?_of_fresh there found held, ?_, ?_, fun _ => rfl⟩
    · -- the request names the pool of the image, which is that of the theme
      rw [← knows.tenancy.inside image inTheme]
      exact ⟨_, _, _, _, List.mem_append_right _ (List.mem_singleton_self _)⟩
    · intro given same
      rw [held] at same
      cases same

/-- What can be presented is an image of a theme. -/
theorem Sound.presents {session after : Session} (sound : session.Sound) {place i j : Nat}
    {buffer : Handle} (presented : session.present? place i j = some (buffer, after)) :
    ∃ theme image, session.themes place = some theme ∧ theme.image? i j = some image ∧
      session.Presents theme image buffer after := by
  obtain ⟨theme, image, there, found, -⟩ := present?_cases presented
  obtain ⟨same, sameAfter, result, presents⟩ := sound.exists_presents there found
  rw [presented] at result
  cases result
  exact ⟨theme, image, there, found, presents⟩

/-! ## The buffer of one image -/

/-- The buffer of image `j` of cursor `i` of the theme at a place, if there is one. -/
def bufferAt? (session : Session) (place i j : Nat) : Option Handle :=
  ((session.themes place).bind fun theme => theme.image? i j).bind Image.buffer

/-- A buffer is that of an image of a theme. -/
theorem bufferAt?_eq_some_iff {session : Session} {place i j : Nat} {buffer : Handle} :
    session.bufferAt? place i j = some buffer ↔
      ∃ theme image, session.themes place = some theme ∧ theme.image? i j = some image ∧
        image.buffer = some buffer := by
  rw [bufferAt?, Option.bind_eq_some_iff]
  constructor
  · rintro ⟨image, found, given⟩
    obtain ⟨theme, there, inTheme⟩ := Option.bind_eq_some_iff.mp found
    exact ⟨theme, image, there, inTheme, given⟩
  · rintro ⟨theme, image, there, inTheme, given⟩
    exact ⟨image, Option.bind_eq_some_iff.mpr ⟨theme, there, inTheme⟩, given⟩

/-- An image that was presented has the buffer that came of it. -/
theorem bufferAt?_of_present? {session after : Session} {place i j : Nat} {buffer : Handle}
    (presented : session.present? place i j = some (buffer, after)) :
    after.bufferAt? place i j = some buffer := by
  obtain ⟨theme, image, there, found, ⟨given, rfl⟩ | ⟨-, rfl, rfl⟩⟩ := present?_cases presented
  · exact bufferAt?_eq_some_iff.mpr ⟨theme, image, there, found, given⟩
  · refine bufferAt?_eq_some_iff.mpr
      ⟨_, { image with buffer := some (session.host.lastHandle + 1) }, themes_settle_self _ _ _ _,
        ?_, rfl⟩
    rw [Theme.image?_putImage found, if_pos ⟨rfl, rfl⟩]

/-- **An image keeps its buffer** through an action that leaves its theme there. -/
theorem bufferAt?_step_of_spares {session : Session} {place i j : Nat} {buffer : Handle}
    (given : session.bufferAt? place i j = some buffer) {action : Action}
    (spared : action.Spares place) : (session.step action).bufferAt? place i j = some buffer := by
  cases action with
  | load other name size loader trouble =>
    rw [bufferAt?, step, themes_load_of_ne session (Ne.symm spared)]
    exact given
  | present other k l =>
    rw [step]
    cases presented : session.present? other k l with
    | none => exact given
    | some result =>
      obtain ⟨newBuffer, after⟩ := result
      obtain ⟨theme, image, there, found, ⟨-, rfl⟩ | ⟨fresh, -, rfl⟩⟩ := present?_cases presented
      · exact given
      · by_cases here : place = other
        · -- the image that is presented has no buffer yet, so it is another image of the theme
          subst here
          obtain ⟨same, owner, sameThere, ownerFound, owns⟩ := bufferAt?_eq_some_iff.mp given
          rw [there, Option.some.injEq] at sameThere
          subst sameThere
          have apart : ¬ (k = i ∧ l = j) := by
            rintro ⟨rfl, rfl⟩
            rw [found, Option.some.injEq] at ownerFound
            rw [← ownerFound, fresh] at owns
            cases owns
          refine bufferAt?_eq_some_iff.mpr ⟨_, owner, themes_settle_self _ _ _ _, ?_, owns⟩
          rw [Theme.image?_putImage found, if_neg apart, ownerFound]
        · simp only [bufferAt?, handOut, themes_settle_of_ne _ here]
          exact given
  | drop other =>
    rw [bufferAt?, step, themes_drop_of_ne session (Ne.symm spared)]
    exact given

/-- An image keeps its buffer through any actions that leave its theme there. -/
theorem bufferAt?_run_of_spares {session : Session} {place i j : Nat} {buffer : Handle}
    (given : session.bufferAt? place i j = some buffer) {actions : List Action}
    (spared : ∀ action ∈ actions, action.Spares place) :
    (session.run actions).bufferAt? place i j = some buffer := by
  induction actions generalizing session with
  | nil => exact given
  | cons action later ih =>
    exact ih (bufferAt?_step_of_spares given (spared action List.mem_cons_self))
      fun other member => spared other (List.mem_cons_of_mem _ member)

/-- The buffer of an image is there, and it was made from the pool of its theme. -/
theorem Sound.liveBuffer {session : Session} (sound : session.Sound) {place i j : Nat}
    {buffer : Handle} (given : session.bufferAt? place i j = some buffer) :
    ∃ theme, session.themes place = some theme ∧ buffer ∈ theme.buffers ∧
      LiveBuffer session.host.requests buffer theme.pool.handle := by
  obtain ⟨theme, image, there, found, owns⟩ := bufferAt?_eq_some_iff.mp given
  have member : buffer ∈ theme.buffers :=
    List.mem_filterMap.mpr ⟨image, Theme.mem_images_of_image? found, owns⟩
  exact ⟨theme, there, member, ((sound.knows there).tenancy.buffers buffer).mp member⟩

/-- **No two images have one buffer.** -/
theorem Sound.eq_of_bufferAt? {session : Session} (sound : session.Sound)
    {place i j other k l : Nat} {buffer : Handle}
    (given : session.bufferAt? place i j = some buffer)
    (otherGiven : session.bufferAt? other k l = some buffer) :
    other = place ∧ k = i ∧ l = j := by
  obtain ⟨theme, there, -, live⟩ := sound.liveBuffer given
  obtain ⟨second, secondThere, -, secondLive⟩ := sound.liveBuffer otherGiven
  have same := sound.orderly.disciplined.pool_eq live.1 secondLive.1
  obtain rfl := sound.apart there secondThere same
  refine ⟨rfl, ?_⟩
  by_contra apart
  obtain ⟨_, image, here, found, owns⟩ := bufferAt?_eq_some_iff.mp given
  obtain ⟨_, rival, rivalHere, rivalFound, rivalOwns⟩ := bufferAt?_eq_some_iff.mp otherGiven
  rw [there, Option.some.injEq] at here rivalHere
  subst here
  subst rivalHere
  have pairwise := List.pairwise_filterMap.mp (sound.knows there).tenancy.nodup
  have different := Theme.rel_of_pairwise pairwise
    (fun a b different x given y otherGiven same =>
      different y otherGiven x given same.symm)
    rivalFound found apart
  exact different buffer rivalOwns buffer owns rfl

/-- **A buffer is given up** when its theme does not stay. -/
theorem Sound.destroyBuffer_mem_run {session : Session} (sound : session.Sound) {place i j : Nat}
    {buffer : Handle} (given : session.bufferAt? place i j = some buffer) {actions : List Action}
    (ended : ¬ ∀ action ∈ actions, action.Spares place) :
    .destroyBuffer buffer ∈ (session.run actions).host.requests := by
  induction actions generalizing session with
  | nil => exact absurd (fun _ member => absurd member List.not_mem_nil) ended
  | cons action later ih =>
    rw [run_cons]
    by_cases spared : action.Spares place
    · refine ih (lasting_sound.step sound action) (bufferAt?_step_of_spares given spared) ?_
      intro rest
      refine ended ?_
      intro other member
      rcases List.mem_cons.mp member with rfl | behind
      · exact spared
      · exact rest other behind
    · -- the theme at the place is dropped here, also if another one is loaded afterwards
      obtain ⟨theme, there, member, -⟩ := sound.liveBuffer given
      have freed : (session.drop place).Sound ∧
          .destroyBuffer buffer ∈ (session.drop place).host.requests := by
        refine ⟨lasting_sound.of_drop sound place, ?_⟩
        have requests := (Theme.destroy_spec sound.orderly (sound.knows there).tenancy).1
        rw [host_drop there, requests]
        exact List.mem_append_left _ (List.mem_append_right _ (List.mem_map_of_mem member))
      refine ((lasting_mem (.destroyBuffer buffer)).run ?_ later).2
      cases action with
      | load other name size loader trouble =>
        obtain rfl : other = place := by_contra spared
        exact (lasting_mem (.destroyBuffer buffer)).of_load freed name size loader trouble
      | present other k l => exact absurd trivial spared
      | drop other =>
        obtain rfl : other = place := by_contra spared
        exact freed

/-- A buffer that came of presenting an image never comes of presenting another one. -/
theorem Sound.eq_of_present? {session after : Session} (sound : session.Sound) {place i j : Nat}
    {buffer : Handle} (presented : session.present? place i j = some (buffer, after))
    {later : List Action} {other k l : Nat} {done : Session}
    (again : (after.run later).present? other k l = some (buffer, done)) :
    other = place ∧ k = i ∧ l = j ∧ ∀ action ∈ later, action.Spares place := by
  have afterSound : after.Sound := by
    obtain ⟨theme, image, there, found, ⟨-, rfl⟩ | ⟨fresh, -, rfl⟩⟩ := present?_cases presented
    · exact sound
    · exact lasting_sound.handOut there found fresh sound
  have given := bufferAt?_of_present? presented
  obtain ⟨theme, there, -, live⟩ := afterSound.liveBuffer given
  have laterSound := lasting_sound.run afterSound later
  have made : MadeFrom (after.run later).host.requests buffer theme.pool.handle := by
    obtain ⟨⟨offset, width, height, stride, member⟩, -⟩ := live
    exact ⟨offset, width, height, stride, ((lasting_mem _).run ⟨afterSound, member⟩ later).2⟩
  have owned : (after.run later).bufferAt? other k l = some buffer := by
    obtain ⟨second, image, here, found, ⟨owns, -⟩ | ⟨-, new, -⟩⟩ := present?_cases again
    · exact bufferAt?_eq_some_iff.mpr ⟨second, image, here, found, owns⟩
    · -- a handle that was given out before is not the next one
      have old := laterSound.orderly.le_of_madeFrom made
      rw [new] at old
      exact absurd old (Nat.not_succ_le_self _)
  have spared : ∀ action ∈ later, action.Spares place := by
    by_contra ended
    -- the buffer would have been given up, but it is there
    obtain ⟨second, -, -, -, kept⟩ := laterSound.liveBuffer owned
    exact kept (afterSound.destroyBuffer_mem_run given ended)
  obtain ⟨samePlace, sameRow, sameColumn⟩ :=
    laterSound.eq_of_bufferAt? (bufferAt?_run_of_spares given spared) owned
  exact ⟨samePlace, sameRow, sameColumn, spared⟩

/-! ## All lifetimes together -/

/-- **The life of pools and buffers.** After any actions the log of the host is disciplined: handles
are made once, and a pool that was given up is not named again. A load tells the sizes of one pool
and nothing else. Every image of a theme can be presented, which makes its one buffer from the pool
of the theme, or gives the one that was made; for as long as its theme is there, presenting it again
gives that buffer and does nothing; and no other image is ever given it. The end of a theme gives up
its buffers, which are all that were ever made from its pool, and then the pool. -/
theorem lifetimes (actions : List Action) :
    let session := run {} actions
    Disciplined session.host.requests ∧
      (session.host.requests.filterMap Request.made?).Nodup ∧
      (∀ earlier pool later, session.host.requests = earlier ++ .destroyPool pool :: later →
        ∀ request ∈ later, request.pool? ≠ some pool) ∧
      (∀ name size loader trouble, ∃ pool, session.host.Sends (Request.Sizes pool)
        (Theme.load name size loader trouble session.host).host) ∧
      (∀ place theme i j image, session.themes place = some theme →
        theme.image? i j = some image →
        ∃ buffer after, session.present? place i j = some (buffer, after) ∧
          session.Presents theme image buffer after) ∧
      (∀ place i j buffer after, session.present? place i j = some (buffer, after) →
        (∃ theme image, session.themes place = some theme ∧ theme.image? i j = some image ∧
          session.Presents theme image buffer after) ∧
        (∀ later, (∀ action ∈ later, action.Spares place) →
          (after.run later).present? place i j = some (buffer, after.run later)) ∧
        ∀ later other k l done, (after.run later).present? other k l = some (buffer, done) →
          other = place ∧ k = i ∧ l = j ∧ ∀ action ∈ later, action.Spares place) ∧
      ∀ place theme, session.themes place = some theme →
        (session.drop place).host.requests
            = session.host.requests ++ theme.buffers.map .destroyBuffer
              ++ [.destroyPool theme.pool.handle] ∧
          theme.buffers.Nodup ∧
          ∀ buffer, buffer ∈ theme.buffers ↔
            MadeFrom session.host.requests buffer theme.pool.handle := by
  intro session
  have sound : session.Sound := lasting_sound.run sound_default actions
  refine ⟨sound.orderly.disciplined, sound.orderly.disciplined.nodup_made, ?_, ?_,
    fun place theme i j image => sound.exists_presents, ?_, ?_⟩
  · intro earlier pool later split request member
    exact (split ▸ sound.orderly.disciplined).unnamed_after_destroyPool member
  · intro name size loader trouble
    cases outcome : (Theme.load name size loader trouble session.host).outcome with
    | ok theme => exact ⟨theme.pool.handle, (Theme.load_fills sound.orderly outcome).sizes⟩
    | error error =>
      refine ⟨0, .of_requests_eq ?_ _⟩
      rw [Theme.host_of_load_eq_error outcome]
  · intro place i j buffer after presented
    refine ⟨sound.presents presented, ?_,
      fun later other k l done again => sound.eq_of_present? presented again⟩
    intro later spared
    have given := bufferAt?_run_of_spares (bufferAt?_of_present? presented) spared
    obtain ⟨theme, image, there, found, owns⟩ := bufferAt?_eq_some_iff.mp given
    exact present?_of_buffer there found owns
  · intro place theme there
    have knows := sound.knows there
    obtain ⟨requests, -, -⟩ := Theme.destroy_spec sound.orderly knows.tenancy
    exact ⟨host_drop there ▸ requests, knows.tenancy.nodup, fun buffer => knows.mem_buffers_iff⟩

/-- Two themes share a host, and one of the two images of the first theme was presented. It keeps its
buffer whatever happens to the other theme, its neighbour is given one of the same pool on request, and
the end of the theme gives up the one that was made. -/
theorem lifetimes_of_two_themes :
    let loader : Loader := fun _ _ => .ofSprites [⟨"a", [.dot 1, .dot 2]⟩]
    let session := run {} [.load 0 none 1 loader {}, .present 0 0 0, .load 1 none 1 loader {}]
    session.host.requests = [.createPool 1 4, .resizePool 1 12, .createBuffer 2 1 0 1 1 4,
        .createPool 3 4, .resizePool 3 12] ∧
      session.present? 0 0 0 = some (2, session) ∧
      (∀ later, (∀ action ∈ later, action.Spares 0) →
        (session.run later).present? 0 0 0 = some (2, session.run later)) ∧
      (∃ buffer after, session.present? 0 0 1 = some (buffer, after) ∧
        MadeFrom after.host.requests buffer 1 ∧
        after.host.requests = session.host.requests ++ [.createBuffer buffer 1 4 1 1 4]) ∧
      (session.drop 0).host.requests
        = session.host.requests ++ [.destroyBuffer 2, .destroyPool 1] := by
  intro loader session
  obtain ⟨-, -, -, -, presentable, kept, dropped⟩ :=
    lifetimes [.load 0 none 1 loader {}, .present 0 0 0, .load 1 none 1 loader {}]
  have handed : session.bufferAt? 0 0 0 = some 2 := by decide
  obtain ⟨theme, image, there, found, owns⟩ := bufferAt?_eq_some_iff.mp handed
  have pool : (session.themes 0).map (fun theme => theme.pool.handle) = some 1 := by decide
  have buffers : (session.themes 0).map Theme.buffers = some [2] := by decide
  have neighbour : ((session.themes 0).map fun theme => theme.image? 0 1)
      = some (some ⟨1, 1, 0, 0, 0, ⟨4, 4⟩, 1, none⟩) := by decide
  simp only [there, Option.map_some, Option.some.injEq] at pool buffers neighbour
  have presented : session.present? 0 0 0 = some (2, session) := by
    obtain ⟨buffer, after, presented, presents⟩ := presentable 0 theme 0 0 image there found
    obtain ⟨rfl, rfl⟩ := presents.again 2 owns
    exact presented
  refine ⟨by decide, presented, (kept 0 0 0 2 session presented).2.1, ?_, ?_⟩
  · obtain ⟨buffer, after, given, presents⟩ := presentable 0 theme 0 1 _ there neighbour
    exact ⟨buffer, after, given, pool ▸ presents.made, presents.first rfl⟩
  · have requests := (dropped 0 theme there).1
    rw [buffers, pool] at requests
    exact requests.trans (List.append_assoc _ _ _)

end Session

end CursorThemes
