import CursorThemes.Proofs.Lifetime

/-! # The layout of a pool

The images of a theme lie in its pool one behind the other, inside of what was given out, and the
service was told how much there is.

* **`RequestLog.announced?`** is the size that a service was last told for a pool.
* **`Pool.Layout`** says how images lie in a pool, and storing keeps it.
* **`Session.Mapped`** is the invariant of a session. -/

namespace CursorThemes

open RequestLog

/-! ## Announced sizes -/

/-- The size that a request tells for a pool, if it does. -/
def Request.announces? (pool : Handle) : Request → Option Int32
  | createPool id size => if id = pool then some size else none
  | resizePool id size => if id = pool then some size else none
  | createBuffer _ _ _ _ _ _ | destroyPool _ | destroyBuffer _ => none

/-- **The size last announced for a pool** in a log. -/
def RequestLog.announced? (log : List Request) (pool : Handle) : Option Int32 :=
  (log.filterMap (Request.announces? pool)).getLast?

/-- Requests that tell nothing of a pool. -/
theorem RequestLog.announced?_append_of_silent {log later : List Request} {pool : Handle}
    (silent : ∀ request ∈ later, request.announces? pool = none) :
    announced? (log ++ later) pool = announced? log pool := by
  rw [announced?, announced?, List.filterMap_append, List.filterMap_eq_nil_iff.mpr silent,
    List.append_nil]

/-- A request that tells the size of a pool. -/
theorem RequestLog.announced?_append_of_announces {log : List Request} {request : Request}
    {pool : Handle} {size : Int32} (tells : request.announces? pool = some size) :
    announced? (log ++ [request]) pool = some size := by
  rw [announced?, List.filterMap_append, List.filterMap_cons_some tells, List.filterMap_nil]
  exact List.getLast?_concat

/-- A request that tells the size of a pool names it. -/
theorem Request.pool?_of_announces? {request : Request} {pool : Handle} {size : Int32}
    (tells : request.announces? pool = some size) : request.pool? = some pool := by
  cases request with
  | createPool id _ =>
    simp only [announces?, Option.ite_none_right_eq_some] at tells
    exact congrArg some tells.1
  | resizePool id _ =>
    simp only [announces?, Option.ite_none_right_eq_some] at tells
    exact congrArg some tells.1
  | createBuffer _ _ _ _ _ _ => cases tells
  | destroyPool _ => cases tells
  | destroyBuffer _ => cases tells

/-- What concerns one pool tells nothing of another one. -/
theorem Host.Serves.announced?_eq {before after : Host} {pool other : Handle}
    (serves : before.Serves pool after) (apart : other ≠ pool) :
    announced? after.requests other = announced? before.requests other := by
  obtain ⟨sent, requests, concerns⟩ := serves.sends
  rw [requests]
  refine announced?_append_of_silent ?_
  intro request member
  by_contra tells
  obtain ⟨size, tells⟩ := Option.ne_none_iff_exists'.mp tells
  exact (concerns request member).pool?_ne apart (Request.pool?_of_announces? tells)

/-! ## Images in a pool -/

/-- **An image has a measure**: it has pixels, and its place has four bytes for each. -/
structure Image.Measured (image : Image) : Prop where
  /-- There is a column. -/
  width_pos : 0 < image.width.toNat
  /-- There is a row. -/
  height_pos : 0 < image.height.toNat
  /-- The place has four bytes for every pixel. -/
  length : image.place.length = image.width.toNat * image.height.toNat * bytesPerPixel

/-- **How images lie in a pool.** Each has its measure, they lie one behind the other inside of what
was given out, and the capacity was announced. -/
structure Pool.Layout (pool : Pool) (images : List Image) (host : Host) : Prop where
  /-- Every image has its measure. -/
  measured : ∀ image ∈ images, image.Measured
  /-- Every image starts behind the ones before it. -/
  ordered : (images.map Image.place).Pairwise fun first second => first.stop ≤ second.offset
  /-- Every image stops inside of what was given out. -/
  inside : ∀ image ∈ images, image.place.stop ≤ pool.used
  /-- The capacity was announced. -/
  announced : announced? host.requests pool.handle = some (.ofNat pool.capacity)

/-- The image of a well-formed frame has its measure. -/
theorem Image.measured_ofFrame {frame : Frame} (formed : frame.WellFormed) (offset : Nat)
    (pool : Handle) : (Image.ofFrame frame ⟨offset, frame.pixelLength⟩ pool).Measured :=
  ⟨formed.width_pos, formed.height_pos, rfl⟩

/-- A pool that has to grow announces its capacity, and one that has not keeps it. -/
theorem Pool.announced?_announceGrant {pool : Pool} {host : Host}
    (announced : announced? host.requests pool.handle = some (.ofNat pool.capacity)) (size : Nat) :
    announced? (pool.announceGrant size host).requests pool.handle
      = some (.ofNat (capacityFor pool.capacity pool.used size)) := by
  unfold Pool.announceGrant capacityFor
  split
  · exact announced
  · exact announced?_append_of_announces (if_pos rfl)

/-- What gives something up tells no size. -/
theorem Request.Releases.announces?_eq_none {request : Request} (releases : request.Releases)
    (pool : Handle) : request.announces? pool = none := by
  cases request with
  | createPool _ _ => exact releases.elim
  | resizePool _ _ => exact releases.elim
  | createBuffer _ _ _ _ _ _ => rfl
  | destroyPool _ => rfl
  | destroyBuffer _ => rfl

/-- The end of an image tells no size. -/
theorem Image.announced?_destroy (image : Image) (host : Host) (pool : Handle) :
    announced? (image.destroy host).requests pool = announced? host.requests pool := by
  obtain ⟨sent, requests, releases⟩ := image.sends_destroy host
  rw [requests]
  exact announced?_append_of_silent fun request member =>
    (releases request member).announces?_eq_none pool

/-- **Storing keeps the layout.** -/
theorem Pool.kept_layout : Kept Pool.Layout where
  alike {pool images before after} alike layout := by
    refine ⟨layout.measured, layout.ordered, layout.inside, ?_⟩
    rw [alike.requests]
    exact layout.announced
  backing _ layout := ⟨layout.measured, layout.ordered, layout.inside, layout.announced⟩
  charge {pool images host frame fault} _ charges layout := by
    refine ⟨?_, ?_, ?_, ?_⟩
    · intro image member
      rcases List.mem_append.mp member with old | new
      · exact layout.measured image old
      · rw [List.mem_singleton.mp new]
        exact Image.measured_ofFrame charges.1 _ _
    · -- the new image starts where the pool had stopped giving out bytes
      rw [List.map_append, List.pairwise_append]
      refine ⟨layout.ordered, List.pairwise_singleton _ _, ?_⟩
      intro place member next isNext
      obtain ⟨image, there, rfl⟩ := List.mem_map.mp member
      rw [List.map_singleton, List.mem_singleton] at isNext
      rw [isNext]
      exact layout.inside image there
    · intro image member
      rw [used_filled]
      rcases List.mem_append.mp member with old | new
      · exact le_trans (layout.inside image old) (Nat.le_add_right _ _)
      · rw [List.mem_singleton.mp new]
        exact le_refl _
    · rw [handle_filled, capacity_filled]
      exact announced?_announceGrant layout.announced frame.pixelLength
  abandon {pool images image host} _ layout := by
    refine ⟨?_, ?_, ?_, ?_⟩
    · intro other member
      exact layout.measured other (List.mem_append_left _ member)
    · have ordered := layout.ordered
      rw [List.map_append] at ordered
      exact (List.pairwise_append.mp ordered).1
    · intro other member
      exact layout.inside other (List.mem_append_left _ member)
    · rw [Image.announced?_destroy]
      exact layout.announced

/-- The layout of a pool that nobody is in yet. -/
theorem Pool.layout_fresh (host : Host) (capacity : Nat) :
    Layout (.fresh (host.lastHandle + 1) capacity) [] (Pool.announceFresh capacity host) := by
  refine ⟨?_, List.Pairwise.nil, ?_, announced?_append_of_announces (if_pos rfl)⟩
  · intro image member
    cases member
  · intro image member
    cases member

/-- The layout does not depend on buffers. -/
theorem Pool.Layout.of_places_eq {pool : Pool} {front back : List Image} {image : Image}
    {before after : Host} (layout : pool.Layout (front ++ image :: back) before)
    (buffer : Option Handle)
    (announced : announced? after.requests pool.handle = announced? before.requests pool.handle) :
    pool.Layout (front ++ { image with buffer } :: back) after := by
  have here := layout.measured image (by simp)
  refine ⟨forall_mem_of_replaced layout.measured ⟨here.width_pos, here.height_pos, here.length⟩, ?_,
    forall_mem_of_replaced layout.inside (layout.inside image (by simp)),
    announced.trans layout.announced⟩
  have ordered := layout.ordered
  rw [List.map_append, List.map_cons] at ordered ⊢
  exact ordered

namespace Session

/-- **All pools of a session are mapped**: their sizes agree, and their images are laid out. -/
def Mapped (session : Session) : Prop :=
  ∀ place theme, session.themes place = some theme →
    theme.pool.Sized ∧ theme.pool.Layout theme.images session.host

/-- Nothing is mapped before the first load. -/
theorem mapped_default : Mapped {} := by
  intro place theme there
  cases there

/-- The layout of a theme goes on while another theme is concerned. -/
theorem Mapped.of_serves {session : Session} (mapped : session.Mapped) {pool : Handle} {host : Host}
    (serves : session.host.Serves pool host) {place : Nat} {theme : Theme}
    (there : session.themes place = some theme) (apart : theme.pool.handle ≠ pool) :
    theme.pool.Sized ∧ theme.pool.Layout theme.images host := by
  obtain ⟨sized, layout⟩ := mapped place theme there
  refine ⟨sized, layout.measured, layout.ordered, layout.inside, ?_⟩
  rw [serves.announced?_eq apart]
  exact layout.announced

/-- **A session stays mapped** when one theme is replaced, or goes, and only its pool
is concerned. -/
theorem Mapped.settle {session : Session} (mapped : session.Mapped) {place : Nat}
    {theme : Option Theme} {pool : Handle} {host : Host} (serves : session.host.Serves pool host)
    (others : ∀ {other second}, other ≠ place → session.themes other = some second →
      second.pool.handle ≠ pool)
    (here : ∀ {new}, theme = some new → new.pool.Sized ∧ new.pool.Layout new.images host) :
    (session.settle place theme host).Mapped := by
  intro other second there
  by_cases same : other = place
  · subst same
    rw [themes_settle_self] at there
    exact here there
  · rw [themes_settle_of_ne _ same] at there
    exact mapped.of_serves serves there (others same there)

/-- **The layout lasts.** -/
theorem lasting_mapped : Lasting fun session => session.Sound ∧ session.Mapped where
  drop {session place theme} there holds := by
    obtain ⟨sound, mapped⟩ := holds
    obtain ⟨-, -, serves⟩ := Theme.destroy_spec sound.orderly (sound.knows there).tenancy
    refine ⟨lasting_sound.drop there sound, mapped.settle serves ?_ ?_⟩
    · intro other second h otherThere
      exact sound.handle_ne there otherThere h
    · intro new none
      cases none
  fill {session place name size loader trouble theme} free loaded holds := by
    obtain ⟨sound, mapped⟩ := holds
    have fills := Theme.load_fills sound.orderly loaded
    refine ⟨lasting_sound.fill free loaded sound, mapped.settle fills.serves ?_ ?_⟩
    · intro other second _ otherThere
      exact sound.handle_ne_of_fills fills otherThere
    · intro new same
      cases same
      exact Theme.load_keeps Pool.kept_layout loaded (Pool.layout_fresh session.host _)
  handOut {session place theme i j image} there found fresh holds := by
    obtain ⟨sound, mapped⟩ := holds
    obtain ⟨-, -, serves⟩ := (sound.knows there).after_present sound.orderly found fresh
    refine ⟨lasting_sound.handOut there found fresh sound, mapped.settle serves ?_ ?_⟩
    · intro other second h otherThere
      exact sound.handle_ne there otherThere h
    · intro new same
      cases same
      obtain ⟨front, back, split, replaced⟩ := Theme.exists_images_putImage found
      obtain ⟨sized, layout⟩ := mapped place theme there
      rw [Theme.pool_putImage, replaced]
      refine ⟨sized, (split ▸ layout).of_places_eq _ ?_⟩
      -- a request for a buffer tells no size
      exact announced?_append_of_silent (by simp [Image.bufferRequest, Request.announces?])

end Session

end CursorThemes
