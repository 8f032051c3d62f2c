import GpsClock.Sml.Crc

/-! # The store's flash pages

Two pages of sixteen-bit words, erased a page at a time and written a double word
at a time. What becomes of each operation is given beside the pages, one outcome an
operation: it is done, it fails or comes out wrong and leaves anything in the words
it was about, or the power is lost before it. Whatever becomes of an operation,
every other word is as it was (`GpsClock.Store.operate_untouched`).
-/

namespace GpsClock.Store

/-- `FLASH_PAGE_WORDS`. -/
def flashPageWords : Nat := 1024

/-- What an erased word reads: `ERASED`. -/
def erased : Word := 0xFFFF

/-- The words of a page. -/
abbrev Page := Nat → Word

/-- There are pages to number. -/
scoped instance somePages : NeZero 2 := ⟨by decide⟩

/-- The words of the store's pages. -/
abbrev Flash := Fin 2 → Page

/-- The flash as it leaves the factory. -/
def blankFlash : Flash := fun _ _ => erased

/-- A page with so many words from a place replaced. -/
def Page.fill (page : Page) (start count : Nat) (content : Page) : Page :=
  fun word => bif start.ble word && word.blt (start + count) then content word else page word

theorem Page.fill_inside (page : Page) {start count word : Nat} (content : Page)
    (low : start ≤ word) (high : word < start + count) :
    page.fill start count content word = content word := by
  have both : (start.ble word && word.blt (start + count)) = true := by
    simp [low, high]
  rw [Page.fill, both, cond_true]

theorem Page.fill_outside (page : Page) {start count word : Nat} (content : Page)
    (outside : ¬(start ≤ word ∧ word < start + count)) :
    page.fill start count content word = page word := by
  have neither : (start.ble word && word.blt (start + count)) = false := by
    rw [Bool.eq_false_iff]
    simpa using outside
  rw [Page.fill, neither, cond_false]

/-- Every word outside a stretch of one page is the same. -/
def Untouched (before after : Flash) (page : Fin 2) (start count : Nat) : Prop :=
  ∀ other word, ¬(other = page ∧ start ≤ word ∧ word < start + count) →
    after other word = before other word

namespace Untouched

variable {before middle after : Flash} {page : Fin 2} {start count : Nat}

theorem rfl : Untouched before before page start count := fun _ _ _ => Eq.refl _

theorem trans (first : Untouched before middle page start count)
    (second : Untouched middle after page start count) :
    Untouched before after page start count :=
  fun other word outside => (second other word outside).trans (first other word outside)

theorem mono {within span : Nat} (untouched : Untouched before after page within span)
    (low : start ≤ within) (high : within + span ≤ start + count) :
    Untouched before after page start count := by
  intro other word outside
  apply untouched other word
  rintro ⟨rfl, above, below⟩
  exact outside ⟨Eq.refl _, Nat.le_trans low above, Nat.lt_of_lt_of_le below high⟩

theorem below (untouched : Untouched before after page start count) (other : Fin 2) {word : Nat}
    (low : word < start) : after other word = before other word :=
  untouched other word (fun inside => by omega)

theorem above (untouched : Untouched before after page start count) (other : Fin 2) {word : Nat}
    (high : start + count ≤ word) : after other word = before other word :=
  untouched other word (fun inside => by omega)

/-- The other page is as it was. -/
theorem elsewhere (untouched : Untouched before after page start count) {other : Fin 2}
    (different : other ≠ page) : after other = before other := by
  funext word
  exact untouched other word (fun inside => different inside.1)

end Untouched

/-! ## Operations and what becomes of them -/

/-- What the flash said: `FlashResult`, for addresses in the store. -/
inductive FlashResult
  | ok
  | failed
  deriving DecidableEq, Repr

/-- What becomes of an operation. -/
inductive Outcome
  | done
  /-- An error is reported; its words are left holding anything. -/
  | failed (content : Page)
  /-- No error is reported, but its words are left holding something. -/
  | wrong (content : Page)
  /-- Power is lost before it. -/
  | lost

/-- The pages, with what becomes of the operations to come: done, where it does not say. -/
structure Chip where
  flash : Flash
  outcomes : List Outcome

/-- Words of a page left holding something. -/
def Chip.leave (chip : Chip) (page : Fin 2) (start count : Nat) (content : Page) : Chip :=
  { flash := Function.update chip.flash page ((chip.flash page).fill start count content)
    outcomes := chip.outcomes.tail }

/-- An operation on so many words of a page: what the flash says, or nothing where the
power is lost. -/
def operate (chip : Chip) (page : Fin 2) (start count : Nat) (intended : Page) :
    Option FlashResult × Chip :=
  match chip.outcomes.head? with
  | none | some .done => (some .ok, chip.leave page start count intended)
  | some (.failed content) => (some .failed, chip.leave page start count content)
  | some (.wrong content) => (some .ok, chip.leave page start count content)
  | some .lost => (none, chip)

/-- `flash_erase_page`. -/
def flashErasePage (chip : Chip) (page : Fin 2) : Option FlashResult × Chip :=
  operate chip page 0 flashPageWords fun _ => erased

/-- `flash_write_double_word`. -/
def flashWriteDoubleWord (chip : Chip) (page : Fin 2) (word : Nat) (first second : Word) :
    Option FlashResult × Chip :=
  operate chip page word 2 fun place => if place = word then first else second

variable {chip : Chip} {page : Fin 2} {start count : Nat}

@[simp] theorem leave_flash_inside (chip : Chip) (page : Fin 2) {start count word : Nat}
    (content : Page) (low : start ≤ word) (high : word < start + count) :
    (chip.leave page start count content).flash page word = content word := by
  simp only [Chip.leave, Function.update_self, Page.fill_inside _ _ low high]

theorem leave_untouched (content : Page) :
    Untouched chip.flash (chip.leave page start count content).flash page start count := by
  intro other word outside
  by_cases same : other = page
  · subst same
    have aside : ¬(start ≤ word ∧ word < start + count) := fun inside => outside ⟨rfl, inside⟩
    simp only [Chip.leave, Function.update_self, Page.fill_outside _ _ aside]
  · simp [Chip.leave, same]

/-- Whatever becomes of an operation, nothing but its own words changes. -/
theorem operate_untouched (chip : Chip) (page : Fin 2) (start count : Nat) (intended : Page) :
    Untouched chip.flash (operate chip page start count intended).2.flash page start count := by
  unfold operate
  split
  · exact leave_untouched _
  · exact leave_untouched _
  · exact leave_untouched _
  · exact leave_untouched _
  · exact .rfl

theorem flashWriteDoubleWord_untouched (chip : Chip) (page : Fin 2) (word : Nat)
    (first second : Word) :
    Untouched chip.flash (flashWriteDoubleWord chip page word first second).2.flash page word 2 :=
  operate_untouched chip page word 2 _

theorem flashErasePage_untouched (chip : Chip) (page : Fin 2) :
    Untouched chip.flash (flashErasePage chip page).2.flash page 0 flashPageWords :=
  operate_untouched chip page 0 flashPageWords _

/-! ## Power cuts -/

/-- Nothing goes wrong but that power may be lost. -/
def PowerOnly (outcomes : List Outcome) : Prop :=
  ∀ outcome ∈ outcomes, outcome = .done ∨ outcome = .lost

theorem PowerOnly.tail {outcomes : List Outcome} (power : PowerOnly outcomes) :
    PowerOnly outcomes.tail :=
  fun outcome member => power outcome (List.mem_of_mem_tail member)

/-- Where only power may be lost, an operation is done or it is not begun. -/
theorem operate_powerOnly (power : PowerOnly chip.outcomes) (intended : Page) :
    operate chip page start count intended = (some .ok, chip.leave page start count intended) ∨
      operate chip page start count intended = (none, chip) := by
  unfold operate
  cases next : chip.outcomes with
  | nil => exact Or.inl rfl
  | cons outcome rest =>
      rw [next] at power
      rcases power outcome List.mem_cons_self with rfl | rfl
      · exact Or.inl rfl
      · exact Or.inr rfl

/-- A double word is written or not begun. -/
theorem flashWriteDoubleWord_powerOnly (power : PowerOnly chip.outcomes) (word : Nat)
    (first second : Word) :
    (∃ next, flashWriteDoubleWord chip page word first second = (some .ok, next) ∧
        PowerOnly next.outcomes ∧ next.flash page word = first ∧
        next.flash page (word + 1) = second) ∨
      flashWriteDoubleWord chip page word first second = (none, chip) := by
  rcases @operate_powerOnly chip page word 2 power
    fun place => if place = word then first else second with done | cut
  · refine Or.inl ⟨_, done, power.tail, ?_, ?_⟩
    · rw [leave_flash_inside _ _ _ (Nat.le_refl _) (by omega), if_pos rfl]
    · rw [leave_flash_inside _ _ _ (Nat.le_add_right _ _) (by omega), if_neg (by omega)]
  · exact Or.inr cut

/-- A page is erased or the erase is not begun. -/
theorem flashErasePage_powerOnly (power : PowerOnly chip.outcomes) :
    (∃ next, flashErasePage chip page = (some .ok, next) ∧ PowerOnly next.outcomes ∧
        ∀ word < flashPageWords, next.flash page word = erased) ∨
      flashErasePage chip page = (none, chip) := by
  rcases @operate_powerOnly chip page 0 flashPageWords power
    fun _ => erased with done | cut
  · refine Or.inl ⟨_, done, power.tail, fun word inside => ?_⟩
    rw [leave_flash_inside _ _ _ (Nat.zero_le _) (by omega)]
  · exact Or.inr cut

end GpsClock.Store
