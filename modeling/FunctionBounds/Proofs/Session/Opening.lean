import FunctionBounds.Proofs.Container.Elf
import FunctionBounds.Proofs.Steps
import FunctionBounds.Session

/-!
# Opened sessions

- **Opening** (`Session.ofBytes_eq_ok`): the session of an image has the header and the layout of
  the image, and neither candidates nor a list of functions.
- **Images with a header** (`Session.ofBytes_of_decode`): only the layout can keep them from being
  opened.
- **Paths** (`Session.ofBytes_path`): an image is opened under any path if it is under one.
-/

namespace FunctionBounds

/-- An image that can be opened is an ELF file whose header and layout can be read. -/
theorem Session.ofBytes_eq_ok {d : Bytes} {path : String} {l : Text.DigitLimit} {s : Session}
    (h : (Session.ofBytes d path l).result = .ok s) :
    ∃ header layout, Elf.Header.decode d = .ok header ∧
      (Layout.extract header d).result = .ok layout ∧
      s = { path, header, regions := layout.regions, stripped := layout.stripped,
            digitLimit := l } := by
  unfold Session.ofBytes at h
  split at h
  · cases hheader : Elf.Header.decode d with
    | error cause => rw [hheader] at h; cases h
    | ok header =>
      simp only [hheader, bind, Noted.result_andThen, Noted.of, Noted.note, Except.bind] at h
      cases hlayout : (Layout.extract header d).result with
      | error cause => rw [hlayout] at h; cases h
      | ok layout =>
        rw [hlayout] at h
        cases h
        exact ⟨header, layout, rfl, hlayout, rfl⟩
  · cases hheader : Pe.Header.decode d <;> rw [hheader] at h <;> cases h
  · cases h

theorem Session.ofBytes_of_decode {d : Bytes} {h : Elf.Header} (hd : Elf.Header.decode d = .ok h)
    (path : String) (l : Text.DigitLimit) :
    (Session.ofBytes d path l).result = (Layout.extract h d).result.bind fun layout =>
      .ok { path, header := h, regions := layout.regions, stripped := layout.stripped,
            digitLimit := l } := by
  simp only [Session.ofBytes, Format.identify_of_decode hd, hd, Noted.result_bind, Noted.result_of,
    Noted.result_note, Noted.result_pure]
  rfl

/-- The path of an image does not matter for what else its session has. -/
theorem Session.ofBytes_path {d : Bytes} {path : String} {l : Text.DigitLimit} {s : Session}
    (h : (Session.ofBytes d path l).result = .ok s) (path' : String) :
    (Session.ofBytes d path' l).result = .ok { s with path := path' } := by
  obtain ⟨header, layout, hdecode, hlayout, rfl⟩ := Session.ofBytes_eq_ok h
  rw [Session.ofBytes_of_decode hdecode, hlayout]
  rfl

end FunctionBounds
