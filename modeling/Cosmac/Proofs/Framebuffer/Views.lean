/-
**Views: what is told of the lit pixels.**

The coordinates of the lit pixels, those of the two planes for a screen, and the number that a frame
counter remembers all come from one walk over the pixels, row by row from the top. The walk meets
each pixel once and in order, and writing the lit ones on a blank framebuffer gives the framebuffer
again. Drawing a frame only counts.

* `coordinates` — the pixels that are lit, or those that are not, as a walk meets them.
* `mem_coordinates`, `pairwise_coordinates`, `length_coordinates` — which these are, in which order,
  and how many.
* `lit_eq`, `Raster.plane_eq` — the lit pixels and the planes as such walks.
* `plot_lit` — a framebuffer rebuilt from its lit pixels.
* `Video.serveAll` — the framebuffer and the frame counter after a run of requests.
* `lit_views_agree` — all views side by side.
-/

import Cosmac.Framebuffer.Video
import Cosmac.Proofs.Framebuffer.Plots
import Cosmac.Screen.Picture

namespace Cosmac

/-- A pixel as a point of the plane, with row 0 at the top. -/
def Point.ofPixel (pixel : Nat × Nat) : Point := ⟨pixel.1, -(pixel.2 : Int)⟩

theorem Point.ofPixel_inj {first second : Nat × Nat} :
    ofPixel first = ofPixel second ↔ first = second := by
  rw [ofPixel, ofPixel, Point.mk.injEq, Prod.ext_iff]
  omega

namespace Framebuffer

/-- One pixel is met before another: it is in a row above, or further to the left in the same
row. -/
def Before (first second : Nat × Nat) : Prop :=
  first.2 < second.2 ∨ first.2 = second.2 ∧ first.1 < second.1

theorem Before.ne {first second : Nat × Nat} (before : Before first second) : first ≠ second := by
  rintro rfl
  unfold Before at before
  omega

variable (framebuffer : Framebuffer)

/-! ### The walk over the pixels -/

/-- The coordinates of the pixels that are lit, or of those that are not, row by row from the
top. -/
def coordinates (lit : Bool) : List (Nat × Nat) :=
  (framebuffer.pixels.toList.zipIdx.filter fun (on, _) => on == lit).map fun (_, index) =>
    (index % 64, index / 64)

theorem lit_eq : framebuffer.lit = framebuffer.coordinates true := by
  have lights : (fun (on, _) => on : Bool × Nat → Bool) = fun (on, _) => on == true := by
    funext ⟨on, index⟩
    cases on <;> rfl
  rw [lit, lights]
  rfl

/-- Each pixel that shines so is met. -/
theorem mem_coordinates {lit : Bool} {x y : Nat} :
    (x, y) ∈ framebuffer.coordinates lit ↔ x < 64 ∧ y < 32 ∧ framebuffer.get x y = lit := by
  simp only [coordinates, List.mem_map, List.mem_filter, Prod.exists, List.mem_zipIdx_iff_getElem?,
    Vector.getElem?_toList, beq_iff_eq, Prod.mk.injEq]
  constructor
  · rintro ⟨on, index, ⟨found, rfl⟩, rfl, rfl⟩
    have inside : index < 2048 := (Vector.getElem?_eq_some_iff.mp found).1
    rw [framebuffer.getElem?_pixels_index inside] at found
    exact ⟨Nat.mod_lt _ (by decide), Nat.div_lt_of_lt_mul inside, Option.some.inj found⟩
  · rintro ⟨inColumns, inRows, rfl⟩
    refine ⟨_, 64 * y + x, ⟨framebuffer.getElem?_pixels inColumns inRows, rfl⟩, ?_, ?_⟩
    · omega
    · omega

/-- **The walk meets pixels in order**: from the top, and in a row from the left. -/
theorem pairwise_coordinates (lit : Bool) : (framebuffer.coordinates lit).Pairwise Before := by
  have numbered : (framebuffer.pixels.toList.zipIdx.map Prod.snd).Pairwise (· < ·) := by
    rw [List.zipIdx_map_snd]
    exact List.pairwise_lt_range'
  rw [coordinates, List.pairwise_map]
  refine ((List.pairwise_map.mp numbered).sublist List.filter_sublist).imp ?_
  intro first second below
  unfold Before
  simp only
  omega

theorem nodup_coordinates (lit : Bool) : (framebuffer.coordinates lit).Nodup :=
  (framebuffer.pairwise_coordinates lit).imp Before.ne

/-- Every pixel is lit or it is not. -/
theorem length_coordinates :
    (framebuffer.coordinates true).length + (framebuffer.coordinates false).length = 2048 := by
  have others : (fun cell : Bool × Nat => !(cell.1 == true)) = fun cell => cell.1 == false := by
    funext ⟨on, index⟩
    cases on <;> rfl
  have halves := (List.filter_append_perm (fun cell : Bool × Nat => cell.1 == true)
    framebuffer.pixels.toList.zipIdx).length_eq
  rw [others, List.length_append, List.length_zipIdx, Vector.length_toList] at halves
  rw [coordinates, coordinates, List.length_map, List.length_map]
  exact halves

/-! ### Rebuilt -/

/-- **A framebuffer is what its lit pixels make on a blank one.** -/
theorem plot_lit :
    blank.plot (framebuffer.lit.map fun (x, y) => ⟨x, y, true⟩) = framebuffer := by
  refine ext_get fun u v inColumns inRows => ?_
  have same : ∀ dot ∈ framebuffer.lit.map (fun (x, y) => Dot.mk x y true), dot.on = true := by
    intro dot member
    obtain ⟨_, _, rfl⟩ := List.mem_map.mp member
    rfl
  have covers : (∃ dot ∈ framebuffer.lit.map (fun (x, y) => Dot.mk x y true),
      SamePixel dot.x dot.y u v) ↔ framebuffer.get u v = true := by
    simp only [List.mem_map, Prod.exists, lit_eq, mem_coordinates]
    constructor
    · rintro ⟨_, ⟨x, y, ⟨inX, inY, shines⟩, rfl⟩, sameColumn, sameRow⟩
      rw [Nat.mod_eq_of_lt inX, Nat.mod_eq_of_lt inColumns] at sameColumn
      rw [Nat.mod_eq_of_lt inY, Nat.mod_eq_of_lt inRows] at sameRow
      rwa [sameColumn, sameRow] at shines
    · intro shines
      exact ⟨_, ⟨u, v, ⟨inColumns, inRows, shines⟩, rfl⟩, rfl, rfl⟩
  rw [blank.get_plot_uniform same covers]
  cases shown : framebuffer.get u v with
  | true => rfl
  | false => exact blank.get_clear u v

end Framebuffer

/-! ### The planes -/

namespace Raster

variable (framebuffer : Framebuffer)

theorem plane_eq (lit : Bool) :
    full.plane framebuffer lit = (framebuffer.coordinates lit).map Point.ofPixel := by
  rw [plane, Framebuffer.coordinates, List.map_map]
  rfl

theorem mem_plane_iff {lit : Bool} {point : Point} :
    point ∈ full.plane framebuffer lit ↔
      ∃ x y, x < 64 ∧ y < 32 ∧ framebuffer.get x y = lit ∧ point = .ofPixel (x, y) := by
  simp only [plane_eq, List.mem_map, Prod.exists, Framebuffer.mem_coordinates]
  constructor
  · rintro ⟨x, y, ⟨inColumns, inRows, shines⟩, rfl⟩
    exact ⟨x, y, inColumns, inRows, shines, rfl⟩
  · rintro ⟨x, y, inColumns, inRows, shines, rfl⟩
    exact ⟨x, y, ⟨inColumns, inRows, shines⟩, rfl⟩

theorem nodup_plane (lit : Bool) : (full.plane framebuffer lit).Nodup := by
  rw [plane_eq]
  refine List.pairwise_map.mpr ((framebuffer.pairwise_coordinates lit).imp fun before => ?_)
  exact fun same => before.ne (Point.ofPixel_inj.mp same)

/-- No point is in both planes. -/
theorem plane_apart {point : Point} (lit : point ∈ full.plane framebuffer true) :
    point ∉ full.plane framebuffer false := by
  intro unlit
  obtain ⟨x, y, -, -, shines, rfl⟩ := (mem_plane_iff framebuffer).mp lit
  obtain ⟨u, v, -, -, dark, same⟩ := (mem_plane_iff framebuffer).mp unlit
  obtain ⟨rfl, rfl⟩ := Prod.mk.inj (Point.ofPixel_inj.mp same)
  rw [shines] at dark
  cases dark

end Raster

/-! ### Frames -/

namespace Video

/-- The edits that a request makes. -/
def Request.edits : Request → List Framebuffer.Edit
  | .set x y on => [.set x y on]
  | .plot dots => dots.map Dot.edit
  | .clear => [.clear]
  | .get _ _ | .lit | .pixels | .draw | .recount => []

/-- The framebuffer and the frame counter after a run of requests. -/
def serveAll (video : Video) (requests : List Request) : Video :=
  requests.foldl (fun video request => (video.serve request).2) video

variable (video : Video)

theorem serveAll_append (earlier later : List Request) :
    video.serveAll (earlier ++ later) = (video.serveAll earlier).serveAll later :=
  List.foldl_append

theorem framebuffer_serve (request : Request) :
    (video.serve request).2.framebuffer = video.framebuffer.editAll request.edits := by
  cases request with
  | plot dots => exact video.framebuffer.plot_eq_editAll dots
  | _ => rfl

/-- **Only edits change the framebuffer in a run**; drawing a frame changes no pixel. -/
theorem framebuffer_serveAll (requests : List Request) :
    (video.serveAll requests).framebuffer =
      video.framebuffer.editAll (requests.flatMap Request.edits) := by
  induction requests generalizing video with
  | nil => rfl
  | cons request later ih =>
    have appended : video.framebuffer.editAll (request.edits ++ later.flatMap Request.edits) =
        (video.framebuffer.editAll request.edits).editAll (later.flatMap Request.edits) :=
      List.foldl_append
    show ((video.serve request).2.serveAll later).framebuffer = _
    rw [ih, framebuffer_serve, List.flatMap_cons, appended]

/-- A request that neither draws nor starts anew leaves the counter alone. -/
theorem counter_serve {request : Request} (quiet : request ≠ .draw) (on : request ≠ .recount) :
    (video.serve request).2.counter = video.counter := by
  cases request with
  | draw => exact absurd rfl quiet
  | recount => exact absurd rfl on
  | _ => rfl

/-- **Every frame is counted once.** -/
theorem frames_serveAll {requests : List Request} (one : .recount ∉ requests) :
    (video.serveAll requests).counter.frames =
      video.counter.frames + requests.count .draw := by
  induction requests generalizing video with
  | nil => rfl
  | cons request later ih =>
    have on : request ≠ .recount := (List.ne_of_not_mem_cons one).symm
    show ((video.serve request).2.serveAll later).counter.frames = _
    rw [ih _ (List.not_mem_of_not_mem_cons one)]
    by_cases draws : request = .draw
    · subst draws
      show video.counter.frames + 1 + later.count .draw = _
      rw [List.count_cons_self]
      omega
    · rw [video.counter_serve draws on, List.count_cons_of_ne draws]

/-- Without a frame the counter stays as it is. -/
theorem counter_serveAll {requests : List Request} (one : .recount ∉ requests)
    (quiet : .draw ∉ requests) : (video.serveAll requests).counter = video.counter := by
  induction requests generalizing video with
  | nil => rfl
  | cons request later ih =>
    have on : request ≠ .recount := (List.ne_of_not_mem_cons one).symm
    have silent : request ≠ .draw := (List.ne_of_not_mem_cons quiet).symm
    show ((video.serve request).2.serveAll later).counter = _
    rw [ih _ (List.not_mem_of_not_mem_cons one) (List.not_mem_of_not_mem_cons quiet),
      video.counter_serve silent on]

/-- **The counter remembers the last frame**, as it was when it was drawn. -/
theorem litInLast_serveAll {earlier later : List Request} (one : .recount ∉ later)
    (quiet : .draw ∉ later) :
    (video.serveAll (earlier ++ .draw :: later)).counter.litInLast =
      (video.serveAll earlier).framebuffer.lit.length := by
  rw [serveAll_append]
  show (((video.serveAll earlier).serve .draw).2.serveAll later).counter.litInLast = _
  rw [counter_serveAll _ one quiet]
  rfl

end Video

namespace Framebuffer

variable (framebuffer : Framebuffer)

/-- **All views of the lit pixels agree.** The walk lists them all, each once and in order; written
on a blank framebuffer they make the same one. The lit plane holds them in that order with the rows
counted downwards, the other plane holds all other pixels, and each of the 2048 pixels is in one of
the two. A display that counts frames has counted, after any run, as many as were drawn, and
remembers how many pixels were lit when the last one was; only edits change a pixel. -/
theorem lit_views_agree :
    (∀ x y, (x, y) ∈ framebuffer.lit ↔ x < 64 ∧ y < 32 ∧ framebuffer.get x y = true) ∧
    framebuffer.lit.Nodup ∧
    framebuffer.lit.Pairwise Before ∧
    blank.plot (framebuffer.lit.map fun (x, y) => ⟨x, y, true⟩) = framebuffer ∧
    Raster.full.plane framebuffer true = framebuffer.lit.map Point.ofPixel ∧
    (∀ point, point ∈ Raster.full.plane framebuffer false ↔
      ∃ x y, x < 64 ∧ y < 32 ∧ (x, y) ∉ framebuffer.lit ∧ point = .ofPixel (x, y)) ∧
    (Raster.full.plane framebuffer false).Nodup ∧
    (∀ point ∈ Raster.full.plane framebuffer true, point ∉ Raster.full.plane framebuffer false) ∧
    (Raster.full.plane framebuffer true ++ Raster.full.plane framebuffer false).length = 2048 ∧
    (∀ requests : List Video.Request, .recount ∉ requests →
      let video : Video := ⟨framebuffer, .fresh⟩
      (video.serveAll requests).framebuffer =
        framebuffer.editAll (requests.flatMap Video.Request.edits) ∧
      (video.serveAll requests).counter.frames = requests.count .draw ∧
      (.draw ∉ requests → (video.serveAll requests).counter.litInLast = 0) ∧
      ∀ earlier later, requests = earlier ++ .draw :: later → .draw ∉ later →
        (video.serveAll requests).counter.litInLast =
          (video.serveAll earlier).framebuffer.lit.length) := by
  have listed : ∀ x y, (x, y) ∈ framebuffer.lit ↔
      x < 64 ∧ y < 32 ∧ framebuffer.get x y = true := by
    intro x y
    rw [lit_eq, mem_coordinates]
  refine ⟨listed, ?_, ?_, framebuffer.plot_lit, ?_, fun point => ?_, Raster.nodup_plane _ _,
    fun point lit => Raster.plane_apart framebuffer lit, ?_, ?_⟩
  · rw [lit_eq]
    exact framebuffer.nodup_coordinates true
  · rw [lit_eq]
    exact framebuffer.pairwise_coordinates true
  · rw [Raster.plane_eq, lit_eq]
  · rw [Raster.mem_plane_iff]
    refine exists₂_congr fun x y => and_congr_right fun inColumns => ?_
    refine and_congr_right fun inRows => ?_
    rw [listed, and_iff_right inColumns, and_iff_right inRows, Bool.not_eq_true]
  · rw [List.length_append, Raster.plane_eq, Raster.plane_eq, List.length_map, List.length_map]
    exact framebuffer.length_coordinates
  · intro requests one video
    refine ⟨video.framebuffer_serveAll requests, ?_, fun quiet => ?_, ?_⟩
    · rw [video.frames_serveAll one]
      exact Nat.zero_add _
    · rw [video.counter_serveAll one quiet]
      rfl
    · rintro earlier later rfl quiet
      exact video.litInLast_serveAll (fun member => one (by simp [member])) quiet

/-- What is changed behind the last frame does not show in the counter. -/
theorem lit_views_agree_after_frame :
    (3, 2) ∈ (blank.set 67 34 true).lit ∧
    ((Video.mk blank .fresh).serveAll [.draw, .set 67 34 true, .draw, .clear,
      .set 4 2 true, .set 5 2 true]).counter.frames = 2 ∧
    ((Video.mk blank .fresh).serveAll [.draw, .set 67 34 true, .draw, .clear,
      .set 4 2 true, .set 5 2 true]).counter.litInLast = 1 := by
  obtain ⟨listed, -⟩ := (blank.set 67 34 true).lit_views_agree
  obtain ⟨-, -, -, -, -, -, -, -, -, runs⟩ := blank.lit_views_agree
  obtain ⟨-, frames, -, last⟩ := runs [.draw, .set 67 34 true, .draw, .clear,
    .set 4 2 true, .set 5 2 true] (by decide)
  refine ⟨(listed 3 2).mpr ⟨by decide, by decide, ?_⟩, frames.trans (by decide), ?_⟩
  · rw [get_set, if_pos (by decide)]
  · rw [last [.draw, .set 67 34 true] _ rfl (by decide)]
    decide +kernel

end Framebuffer

end Cosmac
