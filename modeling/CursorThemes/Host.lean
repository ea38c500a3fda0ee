import CursorThemes.Notice

/-! # The host

What all pools and themes of a client share: the shared-memory service, which numbers the handles
it gives out and receives requests, and the log, which receives notices. Both are remembered in
order. Sizes and places travel as signed 32-bit words, as they go on the wire.

A pool at the service has several holders, the pool itself and every image in it. **`Host.hold`** and
**`Host.release`** count them: the pool is given up when the last holder lets go of it. -/

namespace CursorThemes

/-- The number of bytes of one pixel. A pixel is premultiplied and its bytes are blue, green, red
and alpha, in this order. -/
def bytesPerPixel : Nat := 4

/-- The name of a pool or a buffer at the service. -/
abbrev Handle := Nat

/-- What a service is asked to do. -/
inductive Request where
  /-- Make a pool of the memory in a file. -/
  | createPool (id : Handle) (size : Int32)
  /-- Take more of the file into a pool. -/
  | resizePool (id : Handle) (size : Int32)
  /-- Make a buffer of a range of a pool. -/
  | createBuffer (id pool : Handle) (offset width height stride : Int32)
  /-- Give a pool up. -/
  | destroyPool (id : Handle)
  /-- Give a buffer up. -/
  | destroyBuffer (id : Handle)
  deriving DecidableEq, Repr

/-- **The host.** Pools and buffers are numbered together, from 1 on. -/
structure Host where
  /-- The last handle that was given out. -/
  lastHandle : Handle := 0
  /-- The requests that were received, in order. -/
  requests : List Request := []
  /-- The notices that were logged, in order. -/
  notices : List Notice := []
  /-- The pools that are held, each as often as it has holders. -/
  holds : List Handle := []
  deriving DecidableEq, Repr

namespace Host

/-- Sends a request. -/
def send (host : Host) (request : Request) : Host :=
  { host with requests := host.requests ++ [request] }

/-- Logs a notice. -/
def log (host : Host) (notice : Notice) : Host :=
  { host with notices := host.notices ++ [notice] }

/-- Logs notices, in order. -/
def logAll (host : Host) (notices : List Notice) : Host :=
  { host with notices := host.notices ++ notices }

/-- Gives out the next handle and receives the request that it is made for. -/
def acquire (host : Host) (request : Handle → Request) : Handle × Host :=
  let id := host.lastHandle + 1
  (id, { host with lastHandle := id, requests := host.requests ++ [request id] })

/-- A pool gets a further holder. -/
def hold (host : Host) (pool : Handle) : Host := { host with holds := pool :: host.holds }

/-- A holder lets go of a pool, which is given up if nobody else holds it. -/
def release (host : Host) (pool : Handle) : Host :=
  let left := { host with holds := host.holds.erase pool }
  if pool ∈ left.holds then left else left.send (.destroyPool pool)

@[simp] theorem requests_send (host : Host) (request : Request) :
    (host.send request).requests = host.requests ++ [request] := rfl

@[simp] theorem lastHandle_send (host : Host) (request : Request) :
    (host.send request).lastHandle = host.lastHandle := rfl

@[simp] theorem notices_send (host : Host) (request : Request) :
    (host.send request).notices = host.notices := rfl

@[simp] theorem holds_send (host : Host) (request : Request) :
    (host.send request).holds = host.holds := rfl

@[simp] theorem requests_log (host : Host) (notice : Notice) :
    (host.log notice).requests = host.requests := rfl

@[simp] theorem lastHandle_log (host : Host) (notice : Notice) :
    (host.log notice).lastHandle = host.lastHandle := rfl

@[simp] theorem notices_log (host : Host) (notice : Notice) :
    (host.log notice).notices = host.notices ++ [notice] := rfl

@[simp] theorem holds_log (host : Host) (notice : Notice) :
    (host.log notice).holds = host.holds := rfl

@[simp] theorem requests_logAll (host : Host) (notices : List Notice) :
    (host.logAll notices).requests = host.requests := rfl

@[simp] theorem lastHandle_logAll (host : Host) (notices : List Notice) :
    (host.logAll notices).lastHandle = host.lastHandle := rfl

@[simp] theorem notices_logAll (host : Host) (notices : List Notice) :
    (host.logAll notices).notices = host.notices ++ notices := rfl

@[simp] theorem holds_logAll (host : Host) (notices : List Notice) :
    (host.logAll notices).holds = host.holds := rfl

@[simp] theorem acquire_fst (host : Host) (request : Handle → Request) :
    (host.acquire request).1 = host.lastHandle + 1 := rfl

@[simp] theorem lastHandle_acquire (host : Host) (request : Handle → Request) :
    (host.acquire request).2.lastHandle = host.lastHandle + 1 := rfl

@[simp] theorem requests_acquire (host : Host) (request : Handle → Request) :
    (host.acquire request).2.requests = host.requests ++ [request (host.lastHandle + 1)] := rfl

@[simp] theorem notices_acquire (host : Host) (request : Handle → Request) :
    (host.acquire request).2.notices = host.notices := rfl

@[simp] theorem holds_acquire (host : Host) (request : Handle → Request) :
    (host.acquire request).2.holds = host.holds := rfl

@[simp] theorem requests_hold (host : Host) (pool : Handle) :
    (host.hold pool).requests = host.requests := rfl

@[simp] theorem lastHandle_hold (host : Host) (pool : Handle) :
    (host.hold pool).lastHandle = host.lastHandle := rfl

@[simp] theorem notices_hold (host : Host) (pool : Handle) :
    (host.hold pool).notices = host.notices := rfl

@[simp] theorem holds_hold (host : Host) (pool : Handle) :
    (host.hold pool).holds = pool :: host.holds := rfl

@[simp] theorem holds_release (host : Host) (pool : Handle) :
    (host.release pool).holds = host.holds.erase pool := by
  simp only [release]
  split <;> rfl

@[simp] theorem lastHandle_release (host : Host) (pool : Handle) :
    (host.release pool).lastHandle = host.lastHandle := by
  simp only [release]
  split <;> rfl

/-- A pool that somebody else holds is not given up. -/
theorem requests_release_of_mem {host : Host} {pool : Handle}
    (held : pool ∈ host.holds.erase pool) : (host.release pool).requests = host.requests := by
  rw [release, if_pos held]

/-- A pool that nobody else holds is given up. -/
theorem requests_release_of_not_mem {host : Host} {pool : Handle}
    (last : pool ∉ host.holds.erase pool) :
    (host.release pool).requests = host.requests ++ [.destroyPool pool] := by
  rw [release, if_neg last, requests_send]

end Host

end CursorThemes
