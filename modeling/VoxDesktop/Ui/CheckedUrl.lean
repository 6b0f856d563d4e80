import VoxDesktop.Library.Trimming
import VoxDesktop.Ui.WelcomePage

/-!
# The URL that was checked

The welcome page normalises the text of its edit before the health check, puts
the result back into the edit, and normalises it again when the check has
succeeded.  The URL it then announces is the one it checked as long as the
second time changes nothing.
-/

namespace VoxDesktop
namespace Ui

open Library Qt Network

namespace WelcomePage

/-- White space directly before the slashes that end the trimmed text. -/
def SpaceBeforeSlashes (url : QString) : Prop :=
  ∃ front space count, isSpace space = true ∧
    trimmed url = front ++ space :: List.replicate (count + 1) 0x2F

/-- The checked URL is the one the page announces, remembers and selects when
a check has succeeded. -/
def AnnouncesChecked
    (page : WelcomePage) (edited : QString)
    (request : HttpRequest × QUrlQuery) : Prop :=
  let finished := (page.onConnectClicked edited).2.onHealthFinished true
  ∃ checked, request = healthRequest checked ∧
    finished.1 = some checked ∧ finished.2.remembered = checked ∧
      finished.2.m_selectedBaseUrl = checked

theorem normalizeBaseUrl_eq_normalize (url : QString) :
    normalizeBaseUrl url =
      Trimming.normalize isSpace (fun unit => decide (unit = 0x2F)) url := rfl

theorem uncovers_iff (url : QString) :
    Trimming.Uncovers isSpace (fun unit => decide (unit = 0x2F))
        (trimmed url) ↔
      SpaceBeforeSlashes url := by
  constructor
  · rintro ⟨front, space, run, nonempty, slashes, -, isSpace, same⟩
    refine ⟨front, space, run.length - 1, isSpace, ?_⟩
    have repeated : run = List.replicate run.length 0x2F :=
      List.eq_replicate_iff.mpr
        ⟨rfl, fun unit within => of_decide_eq_true (slashes unit within)⟩
    have positive : 0 < run.length := List.length_pos_of_ne_nil nonempty
    rw [Nat.sub_add_cancel positive, ← repeated, same]
  · rintro ⟨front, space, count, isSpace, same⟩
    refine ⟨front, space, List.replicate (count + 1) 0x2F, ?_, ?_, ?_,
      isSpace, same⟩
    · simp
    · intro unit within
      exact decide_eq_true (List.eq_of_mem_replicate within)
    · apply decide_eq_false
      rintro rfl
      contradiction

/-- Normalising again changes a URL exactly when white space stands before its
slashes. -/
theorem normalizeBaseUrl_idem_iff (url : QString) :
    normalizeBaseUrl (normalizeBaseUrl url) = normalizeBaseUrl url ↔
      ¬SpaceBeforeSlashes url := by
  simp only [← uncovers_iff, normalizeBaseUrl_eq_normalize]
  exact Trimming.normalize_normalize_iff url

theorem healthRequest_injective : Function.Injective healthRequest := by
  intro left right equal
  have urls := congrArg (fun request => request.1.url) equal
  exact List.append_cancel_right urls

/-- A click that starts a check requests the normalised URL and puts it into
the edit. -/
theorem onConnectClicked_of_starts
    {page : WelcomePage} {edited : QString}
    {request : HttpRequest × QUrlQuery}
    (starts : (page.onConnectClicked edited).1 = some request) :
    request = healthRequest (normalizeBaseUrl edited) ∧
      (page.onConnectClicked edited).2.baseUrlEdit =
        normalizeBaseUrl edited := by
  rw [onConnectClicked] at starts ⊢
  split at starts
  · contradiction
  next idle =>
    rw [if_neg idle]
    dsimp only at starts ⊢
    split at starts
    next accepted =>
      rw [if_pos accepted]
      exact ⟨(Option.some.inj starts).symm, rfl⟩
    next => contradiction

theorem starts_of_accepted
    {page : WelcomePage} {edited baseUrl : QString}
    (idle : page.checking = false)
    (normalized : normalizeBaseUrl edited = baseUrl)
    (accepted :
      ((QString.literal "http://").isPrefixOf baseUrl ||
        (QString.literal "https://").isPrefixOf baseUrl) = true) :
    (page.onConnectClicked edited).1 = some (healthRequest baseUrl) := by
  rw [onConnectClicked, if_neg (by simp [idle])]
  dsimp only
  rw [normalized, if_pos accepted]

/-- What the page announces, remembers and selects is the text of its edit,
normalised. -/
theorem onHealthFinished_true (page : WelcomePage) :
    let baseUrl := normalizeBaseUrl page.baseUrlEdit
    (page.onHealthFinished true).1 = some baseUrl ∧
      (page.onHealthFinished true).2.remembered = baseUrl ∧
      (page.onHealthFinished true).2.m_selectedBaseUrl = baseUrl :=
  ⟨rfl, rfl, rfl⟩

theorem announcesChecked_iff
    {page : WelcomePage} {edited : QString}
    {request : HttpRequest × QUrlQuery}
    (starts : (page.onConnectClicked edited).1 = some request) :
    page.AnnouncesChecked edited request ↔
      normalizeBaseUrl (normalizeBaseUrl edited) =
        normalizeBaseUrl edited := by
  obtain ⟨requested, text⟩ := onConnectClicked_of_starts starts
  obtain ⟨announced, remembered, selected⟩ :=
    onHealthFinished_true (page.onConnectClicked edited).2
  rw [text] at announced remembered selected
  constructor
  · rintro ⟨checked, same, announces, -, -⟩
    rw [requested] at same
    rw [announced, ← healthRequest_injective same] at announces
    exact Option.some.inj announces
  · intro same
    rw [same] at announced remembered selected
    exact ⟨normalizeBaseUrl edited, requested, announced, remembered,
      selected⟩

/-- The page announces the URL it has checked, and normalising is idempotent,
exactly on the texts without white space before their slashes. -/
theorem announces_checked_iff (edited : QString) :
    (normalizeBaseUrl (normalizeBaseUrl edited) = normalizeBaseUrl edited ↔
        ¬SpaceBeforeSlashes edited) ∧
      ∀ page request, (onConnectClicked page edited).1 = some request →
        (page.AnnouncesChecked edited request ↔
          ¬SpaceBeforeSlashes edited) := by
  have idempotent := normalizeBaseUrl_idem_iff edited
  refine ⟨idempotent, fun page request starts => ?_⟩
  exact (announcesChecked_iff starts).trans idempotent

/-! ## Two texts -/

section Examples

/-- A page on which nothing was remembered. -/
def examplePage : WelcomePage :=
  constructed [] (QString.literal "http://127.0.0.1:8080")

/-- A text with surrounding spaces and several slashes. -/
theorem announces_checked_slashes :
    let edited := QString.literal "  https://one.example/vox// "
    let request := healthRequest (QString.literal "https://one.example/vox")
    examplePage.AnnouncesChecked edited request := by
  intro edited request
  have idempotent :
      normalizeBaseUrl (normalizeBaseUrl edited) =
        normalizeBaseUrl edited := by decide +kernel
  have checked := announces_checked_iff edited
  have starts : (examplePage.onConnectClicked edited).1 = some request :=
    starts_of_accepted rfl (by decide +kernel) (by decide +kernel)
  exact (checked.2 examplePage request starts).mpr
    (checked.1.mp idempotent)

/-- With a space before the slash another URL is announced than the one that
was checked. -/
theorem announces_unchecked :
    let edited := QString.literal "https://one.example/vox /"
    let checked := QString.literal "https://one.example/vox "
    let clicked := examplePage.onConnectClicked edited
    let finished := clicked.2.onHealthFinished true
    clicked.1 = some (healthRequest checked) ∧
      finished.1 = some (QString.literal "https://one.example/vox") ∧
      finished.2.remembered = QString.literal "https://one.example/vox" ∧
      normalizeBaseUrl (normalizeBaseUrl edited) ≠ normalizeBaseUrl edited ∧
      ¬examplePage.AnnouncesChecked edited (healthRequest checked) := by
  intro edited checked clicked finished
  have starts : clicked.1 = some (healthRequest checked) :=
    starts_of_accepted rfl (by decide +kernel) (by decide +kernel)
  have changed :
      normalizeBaseUrl (normalizeBaseUrl edited) ≠
        normalizeBaseUrl edited := by decide +kernel
  exact ⟨starts, by decide +kernel, by decide +kernel, changed,
    (announcesChecked_iff starts).not.mpr changed⟩

end Examples

end WelcomePage
end Ui
end VoxDesktop
