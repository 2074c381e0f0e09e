import Nucleus.Proofs.Buddy.Allocating
import Nucleus.Proofs.Buddy.Releasing

/-! A heap in service: its book is sound, with the blocks under the live payloads as the blocks that are
taken, and each of these starts with the size asked for. -/
namespace Nucleus.Buddy

/-- A payload that was handed out: its address, and the size asked for. -/
structure Loan where
  addr : Nat
  request : Nat
deriving DecidableEq, Repr

namespace Loan

/-- The block under a payload. -/
def block (site : Site) (loan : Loan) : Block :=
  ⟨site.geometry.bucketOf loan.request,
    (loan.addr - headerSize - site.window.base) / site.geometry.roomFor loan.request⟩

/-- The block under a payload has room for two links. -/
theorem linkSize_le (site : Site) (loan : Loan) : linkSize ≤ (loan.block site).size site.geometry :=
  Geometry.linkSize_le_blockSize (site.geometry.bucketOf_le _)

structure Kept (site : Site) (heap : Heap) (loan : Loan) : Prop where
  addr : loan.addr = site.addressOf (loan.block site) + headerSize
  small : loan.request + headerSize ≤ site.geometry.maxBlock
  header : heap.window.memory.readWord (site.addressOf (loan.block site)) = loan.request
  granted : site.addressOf (loan.block site) + (loan.block site).size site.geometry ≤ heap.highWater

variable {site : Site} {heap : Heap} {loan : Loan} {block : Block} {request : Nat}

theorem block_eq (small : request + headerSize ≤ site.geometry.maxBlock)
    (level : block.bucket = site.geometry.bucketOf request) :
    (⟨site.addressOf block + headerSize, request⟩ : Loan).block site = block := by
  obtain ⟨bucket, index⟩ := block
  obtain rfl : bucket = _ := level
  have positive := site.geometry.blockSize_pos (site.geometry.bucketOf request)
  simp only [Loan.block, Site.addressOf, Block.offset, Nat.add_sub_cancel, Nat.add_sub_cancel_left]
  rw [← Geometry.blockSize_bucketOf small, Nat.mul_div_cancel _ positive]

theorem Kept.size (kept : loan.Kept site heap) :
    (loan.block site).size site.geometry = site.geometry.roomFor loan.request :=
  Geometry.blockSize_bucketOf kept.small

theorem Kept.payload (kept : loan.Kept site heap) :
    loan.addr + loan.request ≤ site.addressOf (loan.block site) + (loan.block site).size site.geometry := by
  have room := site.geometry.le_roomFor loan.request
  rw [kept.addr, kept.size]
  omega

/-- The header and the payload lie in the block, where an operation that writes to no block under a payload
changes nothing. -/
theorem Kept.bytes {header : Nat → Nat → Prop} {taken : List Block} {events : List Event} {after : Heap}
    (kept : loan.Kept site heap) (member : loan.block site ∈ taken)
    (alters : heap.Alters header (site.Outside taken) events after) {addr : Nat}
    (above : loan.addr ≤ addr + headerSize) (below : addr < loan.addr + loan.request) :
    after.window.memory.get addr = heap.window.memory.get addr := by
  refine alters.bytes addr fun outside => ?_
  have payload := kept.payload
  have start := kept.addr
  have apart := outside _ member
  omega

theorem Kept.frame {header : Nat → Nat → Prop} {taken : List Block} {events : List Event} {after : Heap}
    (kept : loan.Kept site heap) (member : loan.block site ∈ taken)
    (alters : heap.Alters header (site.Outside taken) events after) : loan.Kept site after where
  addr := kept.addr
  small := kept.small
  header := by
    rw [← kept.header]
    refine Memory.readWord_congr fun i inside => kept.bytes member alters ?_ ?_
    · rw [kept.addr]
      omega
    · rw [kept.addr]
      unfold headerSize
      omega
  granted := kept.granted.trans alters.rises

end Loan

namespace Heap
variable {site : Site} {heap after : Heap} {book : Book} {live : List Loan} {loan : Loan} {request : Nat}

structure Serving (site : Site) (heap : Heap) (live : List Loan) (book : Book) : Prop where
  ready : heap.ready = true
  shows : heap.Shows site book book.mark
  sound : Sound site.geometry book (live.map (Loan.block site))
  kept : ∀ loan ∈ live, loan.Kept site heap
  within : heap.Within

/-- The one header that an allocation writes is that of the block it hands out. -/
def Headed (request : Nat) (result : Except AllocError Nat) (addr value : Nat) : Prop :=
  result = .ok (addr + headerSize) ∧ value = request

/-- How an allocation answers. When it fails, nothing was handed out, and either the window ends too soon
or the whole of it is searched in vain. -/
def Answers (site : Site) (live : List Loan) (request : Nat) : Except AllocError Nat → Heap → Prop
  | .ok addr, after => ∃ book, after.Serving site (⟨addr, request⟩ :: live) book
  | .error error, after => ∃ book, after.Serving site live book ∧
      (error = .reservationDenied ∧ site.window.ceiling < site.geometry.maxBlock ∨
        error = .outOfMemory ∧ book.root = 0 ∧
          ∀ bucket ≤ site.geometry.bucketOf request, book.free bucket = [])

/-- What a heap is in that has followed the plan of an allocation: the block that the plan hands out is live. -/
def Served (site : Site) (live : List Loan) (request : Nat) :
    Except AllocError Block × Book → Except AllocError Nat → Heap → Prop
  | (.ok block, book), result, after => result = .ok (site.addressOf block + headerSize) ∧
      after.Serving site (⟨site.addressOf block + headerSize, request⟩ :: live) book
  | (.error error, book), result, after => result = .error error ∧ after.Serving site live book

theorem served_of_plan {result : Except AllocError Nat}
    (small : request + headerSize ≤ site.geometry.maxBlock)
    (sound : Sound site.geometry book (live.map (Loan.block site)))
    (kept : ∀ loan ∈ live, loan.Kept site after) (ready : after.ready = true) (within : after.Within)
    (followed : HandsOut site request
      (Plan.allocate site.geometry site.window.ceiling request book) result after) :
    Served site live request (Plan.allocate site.geometry site.window.ceiling request book) result after := by
  have allocated := Plan.allocate_allocated site.window.ceiling request sound
  obtain ⟨follows, header⟩ := followed
  rcases ran : Plan.allocate site.geometry site.window.ceiling request book with ⟨error | block, grown⟩
  · rw [ran] at allocated follows
    obtain ⟨rfl, shows⟩ := follows
    exact ⟨rfl, ready, shows, allocated.1, kept, within⟩
  · rw [ran] at allocated follows header
    obtain ⟨rfl, shows⟩ := follows
    obtain ⟨carved, level, granted⟩ := allocated
    have own := Loan.block_eq small level
    refine ⟨rfl, ready, shows, ?_, ?_, within⟩
    · rw [List.map_cons, own]
      exact carved
    · intro loan member
      rcases List.mem_cons.mp member with rfl | member
      · refine ⟨?_, small, ?_, ?_⟩
        · rw [own]
        · rw [own]
          exact header block rfl
        · have top : after.highWater = site.window.base + grown.granted := shows.granted
          have inside : block.offset site.geometry + block.size site.geometry ≤ grown.granted := granted
          rw [own, top, Site.addressOf]
          omega
      · exact kept loan member

/-- What the plan says of an allocation that fails holds of the heap. -/
theorem Served.answers {result : Except AllocError Nat}
    (sound : Sound site.geometry book (live.map (Loan.block site)))
    (served : Served site live request
      (Plan.allocate site.geometry site.window.ceiling request book) result after) :
    Answers site live request result after := by
  have allocated := Plan.allocate_allocated site.window.ceiling request sound
  rcases ran : Plan.allocate site.geometry site.window.ceiling request book with ⟨error | block, grown⟩
  · rw [ran] at allocated served
    obtain ⟨rfl, serving⟩ := served
    exact ⟨grown, serving, allocated.2⟩
  · rw [ran] at served
    obtain ⟨rfl, serving⟩ := served
    exact ⟨grown, serving⟩

theorem allocate_serves (small : request + headerSize ≤ site.geometry.maxBlock)
    (geometry : heap.geometry = site.geometry)
    (sound : Sound site.geometry book (live.map (Loan.block site)))
    (kept : ∀ loan ∈ live, loan.Kept site heap) (within : heap.Within)
    (prepared : ∀ header, Op.Returns (Alters header (site.Outside (live.map (Loan.block site)))) prepare.run
      heap fun result after => result = .ok () ∧ after.ready = true ∧ after.Shows site book book.mark) :
    ∃ events result after, (allocate request).run heap = (events, .ok (result, after)) ∧
      heap.Alters (Headed request result) (site.Outside (live.map (Loan.block site))) events after ∧
      Served site live request (Plan.allocate site.geometry site.window.ceiling request book) result
        after := by
  let plan := Plan.allocate site.geometry site.window.ceiling request book
  let header := fun addr value =>
    ∃ handed more, plan = (.ok handed, more) ∧ addr = site.addressOf handed ∧ value = request
  obtain ⟨events, result, after, ran, alters, ready, followed⟩ :=
    allocate_returns small geometry sound (fun handed more made => ⟨handed, more, made, rfl, rfl⟩)
      (prepared header)
  refine ⟨events, result, after, ran, alters.heads ?_, served_of_plan small sound ?_ ready
    (alters.within within) followed⟩
  · rintro _ _ ⟨handed, more, made, rfl, rfl⟩
    have follows := followed.1
    rw [show Plan.allocate _ _ _ _ = _ from made] at follows
    exact ⟨follows.1, rfl⟩
  · exact fun loan member => (kept loan member).frame (List.mem_map_of_mem member) alters

/-- The first allocation, when the window grants room for the first free block. -/
theorem Idle.serves {site : Site} (idle : heap.Idle site.geometry site.window site.splitSize)
    (small : request + headerSize ≤ site.geometry.maxBlock) (granted : linkSize ≤ site.window.ceiling) :
    ∃ events result after, (allocate request).run heap = (events, .ok (result, after)) ∧
      heap.cleared.Alters (Headed request result) (site.Outside []) events after ∧
      Served site [] request (Plan.allocate site.geometry site.window.ceiling request
        (Book.start site.geometry)) result after := by
  have prepared := fun header => prepare_returns header idle
  simp only [if_pos granted] at prepared
  have kept : ∀ loan ∈ ([] : List Loan), loan.Kept site heap.cleared := fun _ member => nomatch member
  obtain ⟨events, result, after, ran, alters, served⟩ :=
    allocate_serves small idle.cleared.geometry (Sound.start _) kept (Nat.le_add_right _ _) prepared
  exact ⟨events, result, after, (idle.allocate_cleared small).trans ran, alters, served⟩

theorem Idle.allocates {site : Site} (idle : heap.Idle site.geometry site.window site.splitSize)
    (small : request + headerSize ≤ site.geometry.maxBlock) (granted : linkSize ≤ site.window.ceiling) :
    ∃ events result after, (allocate request).run heap = (events, .ok (result, after)) ∧
      heap.cleared.Alters (Headed request result) (site.Outside []) events after ∧
      Answers site [] request result after := by
  have sound : Sound site.geometry (Book.start site.geometry) (([] : List Loan).map (Loan.block site)) :=
    Sound.start _
  obtain ⟨events, result, after, ran, alters, served⟩ := idle.serves small granted
  exact ⟨events, result, after, ran, alters, served.answers sound⟩

/-- The window does not even grant room for the first free block. -/
theorem Idle.refuses {site : Site} (header : Nat → Nat → Prop)
    (idle : heap.Idle site.geometry site.window site.splitSize)
    (small : request + headerSize ≤ site.geometry.maxBlock) (denied : ¬ linkSize ≤ site.window.ceiling) :
    ∃ events, (allocate request).run heap =
        (events, .ok (.error .reservationDenied, heap.cleared)) ∧
      heap.cleared.Alters header (site.Outside []) events heap.cleared := by
  have prepared := prepare_returns header idle
  simp only [if_neg denied] at prepared
  have answers : Op.Returns (Alters header (site.Outside [])) (allocate request).run heap.cleared
      fun result after => result = .error .reservationDenied ∧ after = heap.cleared := by
    rw [allocate]
    refine .getThe_bind ?_
    rw [idle.cleared.geometry, if_neg (Nat.not_lt.mpr small)]
    exact .error_bind (alters_composes header _) prepared fun _ same => ⟨rfl, same⟩
  obtain ⟨events, result, after, ran, alters, rfl, rfl⟩ := answers
  exact ⟨events, (idle.allocate_cleared small).trans ran, alters⟩

namespace Serving

theorem serves (serving : heap.Serving site live book)
    (small : request + headerSize ≤ site.geometry.maxBlock) :
    ∃ events result after, (allocate request).run heap = (events, .ok (result, after)) ∧
      heap.Alters (Headed request result) (site.Outside (live.map (Loan.block site))) events after ∧
      Served site live request (Plan.allocate site.geometry site.window.ceiling request book) result
        after := by
  apply allocate_serves small serving.shows.geometry serving.sound serving.kept serving.within
  intro header
  exact ⟨[], _, heap, prepare_ready serving.ready, (alters_composes header _).refl heap, rfl, serving.ready,
    serving.shows⟩

theorem allocates (serving : heap.Serving site live book)
    (small : request + headerSize ≤ site.geometry.maxBlock) :
    ∃ events result after, (allocate request).run heap = (events, .ok (result, after)) ∧
      heap.Alters (Headed request result) (site.Outside (live.map (Loan.block site))) events after ∧
      Answers site live request result after := by
  obtain ⟨events, result, after, ran, alters, served⟩ := serving.serves small
  exact ⟨events, result, after, ran, alters, served.answers serving.sound⟩

/-- The free lists can be read without changing the heap, in granted memory. -/
theorem walks (serving : heap.Serving site live book) {bucket : Nat} (valid : bucket < maxBuckets) :
    ∃ events, (Heap.freeBlocks bucket).run heap = (events, .ok (listed site book bucket, heap)) ∧
      Event.Below heap.highWater events heap.highWater := by
  obtain ⟨events, found, after, ran, alters, rfl, rfl⟩ :=
    freeBlocks_returns (fun _ _ => False) serving.shows serving.sound valid
  exact ⟨events, ran, alters.below⟩

theorem freeBlocks (serving : heap.Serving site live book) {bucket : Nat} (valid : bucket < maxBuckets) :
    ∃ events, (Heap.freeBlocks bucket).run heap = (events, .ok (listed site book bucket, heap)) :=
  (serving.walks valid).imp fun _ => And.left

theorem perm {others : List Loan} (serving : heap.Serving site live book) (same : live.Perm others) :
    heap.Serving site others book where
  ready := serving.ready
  shows := serving.shows
  sound := serving.sound.perm (same.map _)
  kept loan member := serving.kept loan (same.mem_iff.mpr member)
  within := serving.within

/-- The header under an address tells which payload lies there. -/
theorem eq_of_addr_eq {other : Loan} (serving : heap.Serving site live book) (member : loan ∈ live)
    (other_member : other ∈ live) (same : loan.addr = other.addr) : loan = other := by
  have kept := serving.kept loan member
  have other_kept := serving.kept other other_member
  have start : site.addressOf (loan.block site) = site.addressOf (other.block site) := by
    have own := kept.addr
    have beside := other_kept.addr
    omega
  have request : loan.request = other.request := by rw [← kept.header, ← other_kept.header, start]
  exact (Loan.mk.injEq ..).mpr ⟨same, request⟩

theorem releases (header : Nat → Nat → Prop) (serving : heap.Serving site (loan :: live) book) :
    Op.Returns (Alters header (site.Outside (live.map (Loan.block site)))) (release loan.addr) heap
      fun _ after => after.Serving site live (Plan.release (loan.block site) book) := by
  have sound : Sound site.geometry book (loan.block site :: live.map (Loan.block site)) := serving.sound
  have own := serving.kept loan List.mem_cons_self
  have granted : (loan.block site).offset site.geometry + (loan.block site).size site.geometry ≤
      book.granted := by
    have top := own.granted
    rw [serving.shows.granted, Site.addressOf] at top
    omega
  have linked : (loan.block site).offset site.geometry + linkSize ≤ book.granted := by
    have large := loan.linkSize_le site
    omega
  rw [own.addr]
  have framed : ∀ events after, heap.Alters header (site.Outside (live.map (Loan.block site))) events after →
      after.ready = true ∧ after.Within ∧ ∀ loan ∈ live, loan.Kept site after := fun events after alters =>
    ⟨alters.ready serving.ready, alters.within serving.within, fun other member =>
      (serving.kept other (List.mem_cons_of_mem _ member)).frame (List.mem_map_of_mem member) alters⟩
  refine .mono (.remember (release_returns serving.ready serving.shows sound granted own.small rfl
    own.header) framed) ?_
  rintro _ after ⟨⟨ready, within, kept⟩, shows⟩
  exact ⟨ready, shows, Plan.release_sound sound linked, kept, within⟩

/-- Bytes written inside a payload. -/
theorem writes (serving : heap.Serving site live book) (member : loan ∈ live) {addr : Nat}
    {bytes : List UInt8} (above : loan.addr ≤ addr)
    (below : addr + bytes.length ≤ loan.addr + loan.request) :
    heap.window.writeBytes addr bytes =
        .ok { heap.window with memory := heap.window.memory.write addr bytes } ∧
      ({ heap with window := { heap.window with memory := heap.window.memory.write addr bytes } } : Heap).Serving
        site live book := by
  have sound := serving.sound
  have own := serving.kept loan member
  have payload := own.payload
  have here : loan.block site ∈ live.map (Loan.block site) := List.mem_map_of_mem member
  have fits := sound.taken_fits here
  have first : site.addressOf (loan.block site) + headerSize ≤ addr := own.addr ▸ above
  have word : headerSize = 8 := rfl
  have untouched : ∀ other, other < site.addressOf (loan.block site) + headerSize ∨
      site.addressOf (loan.block site) + (loan.block site).size site.geometry ≤ other →
      (heap.window.memory.write addr bytes).get other = heap.window.memory.get other := by
    intro other outside
    rw [Memory.get_write]
    split
    · rw [List.getElem?_eq_none (by omega), Option.getD_none]
    · rfl
  have inside : heap.window.contains addr bytes.length = .ok true := by
    have top := fits.offset_add_size_le
    have large := site.large
    have window_fits := serving.shows.window_fits
    apply Window.contains_of_inside window_fits
    · rw [serving.shows.base]
      simp only [Site.addressOf] at first
      omega
    · rw [serving.shows.base, serving.shows.capacity]
      simp only [Site.addressOf] at payload
      omega
  refine ⟨?_, serving.ready, ?_, sound, ?_, serving.within⟩
  · rw [Window.writeBytes, inside]
    rfl
  · refine serving.shows.of_memory fun free listed other low high => untouched other ?_
    have apart := Site.apart_iff.mp (sound.apart_of_taken listed here)
    have large : linkSize ≤ free.size site.geometry :=
      Geometry.linkSize_le_blockSize (sound.fits listed).bucket_le
    omega
  · intro other other_member
    have kept := serving.kept other other_member
    refine ⟨kept.addr, kept.small, ?_, kept.granted⟩
    rw [← kept.header]
    refine Memory.readWord_congr fun i small => untouched _ ?_
    by_cases same : other.block site = loan.block site
    · rw [same]
      omega
    · have apart := Site.apart_iff.mp (sound.tiles.apart
        (List.mem_append_right _ (List.mem_map_of_mem other_member)) (List.mem_append_right _ here) same)
      have large := other.linkSize_le site
      have link : linkSize = 16 := rfl
      omega

end Serving

end Heap

end Nucleus.Buddy
