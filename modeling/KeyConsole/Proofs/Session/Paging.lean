import Mathlib.Algebra.Order.Floor.Div
import KeyConsole.Backend.TableFile
import KeyConsole.Proofs.Step
import KeyConsole.Session

/-!
# Pages of keys

A page is collected by a walk that sees the keys one by one, passes over the matching
ones in front of the cursor, and stops behind the first matching key for which there is
no room.  Whatever the cursor, the page is a stretch of the list of matching keys, and
the pages that are got by giving each cursor back are the whole list.
-/

namespace KeyConsole.Session

namespace Paging

variable {isMatch : Key → Bool} {cursor count : Nat} {paging : Paging} {key : Key}
  {keys : List Key}

/-! ## One key -/

theorem visit_of_not_match (other : isMatch key = false) :
    paging.visit isMatch cursor count key = (paging, true) := by
  simp [visit, other]

theorem visit_of_lt (matching : isMatch key = true) (before : paging.position < cursor) :
    paging.visit isMatch cursor count key
      = ({ paging with position := paging.position + 1 }, true) := by
  simp [visit, matching, before]

theorem visit_of_full (matching : isMatch key = true) (reached : cursor ≤ paging.position)
    (full : paging.keys.length = count) :
    paging.visit isMatch cursor count key = ({ paging with more := true }, false) := by
  simp [visit, matching, Nat.not_lt.mpr reached, full]

theorem visit_of_room (matching : isMatch key = true) (reached : cursor ≤ paging.position)
    (room : paging.keys.length ≠ count) :
    paging.visit isMatch cursor count key
      = ({ paging with position := paging.position + 1, keys := paging.keys ++ [key] }, true) := by
  simp [visit, matching, Nat.not_lt.mpr reached, room]

/-! ## The walk -/

/-- How far a walk has come that has seen given matching keys. -/
def seen (cursor count : Nat) (matching : List Key) : Paging where
  position := min matching.length (cursor + count)
  keys := (matching.drop cursor).take count
  more := cursor + count < matching.length

theorem seen_of_le {matching : List Key} (few : matching.length ≤ cursor + count) :
    seen cursor count matching = ⟨matching.length, matching.drop cursor, false⟩ := by
  have all : (matching.drop cursor).take count = matching.drop cursor := by
    apply List.take_of_length_le
    rw [List.length_drop]
    omega
  simp [seen, all, few]

/-- Behind a full page nothing more is seen than that there is a matching key. -/
theorem seen_append_of_full {first rest : List Key} (full : first.length = cursor + count) :
    seen cursor count (first ++ key :: rest) = ⟨first.length, first.drop cursor, true⟩ := by
  have page : ((first ++ key :: rest).drop cursor).take count = first.drop cursor := by
    rw [List.drop_append_of_le_length (by omega), List.take_append_of_le_length,
      List.take_of_length_le]
    all_goals
      rw [List.length_drop]
      omega
  have longer : cursor + count < (first ++ key :: rest).length := by
    rw [List.length_append, List.length_cons]
    omega
  simp only [seen, page, longer, decide_true, Nat.min_eq_right (Nat.le_of_lt longer), full]

theorem walk_cons_of_go {next : Paging}
    (goes : paging.visit isMatch cursor count key = (next, true)) :
    paging.walk isMatch cursor count (key :: keys) = next.walk isMatch cursor count keys := by
  rw [walk, goes]

theorem walk_cons_of_stop {last : Paging}
    (stops : paging.visit isMatch cursor count key = (last, false)) :
    paging.walk isMatch cursor count (key :: keys) = last := by
  rw [walk, stops]

/-- A walk that has seen matching keys, and goes on, ends as if it had seen all the
matching keys at once. -/
theorem walk_seen {first : List Key} (few : first.length ≤ cursor + count) :
    (seen cursor count first).walk isMatch cursor count keys
      = seen cursor count (first ++ keys.filter isMatch) := by
  induction keys generalizing first with
  | nil => rw [List.filter_nil, List.append_nil, walk]
  | cons key keys ih =>
    cases matching : isMatch key with
    | false =>
      rw [walk_cons_of_go (visit_of_not_match matching), ih few,
        List.filter_cons_of_neg (by simp [matching])]
    | true =>
      rw [List.filter_cons_of_pos matching]
      have place := seen_of_le few
      by_cases full : first.length = cursor + count
      · -- there is no room for this key, so the rest is not looked at
        have stops : (seen cursor count first).visit isMatch cursor count key
            = (⟨first.length, first.drop cursor, true⟩, false) := by
          rw [place]
          apply visit_of_full matching
          · simp only
            omega
          · simp only [List.length_drop]
            omega
        rw [walk_cons_of_stop stops, seen_append_of_full full]
      · have still : (first ++ [key]).length ≤ cursor + count := by
          rw [List.length_append, List.length_singleton]
          omega
        have goes : (seen cursor count first).visit isMatch cursor count key
            = (seen cursor count (first ++ [key]), true) := by
          rw [place, seen_of_le still, List.length_append, List.length_singleton]
          by_cases before : first.length < cursor
          · rw [visit_of_lt matching before, List.drop_eq_nil_of_le (Nat.le_of_lt before),
              List.drop_eq_nil_of_le]
            rw [List.length_append, List.length_singleton]
            omega
          · rw [visit_of_room matching (Nat.not_lt.mp before),
              List.drop_append_of_le_length (Nat.not_lt.mp before)]
            simp only [List.length_drop]
            omega
        rw [walk_cons_of_go goes, ih still, List.append_assoc, List.singleton_append]

theorem walk_start (isMatch : Key → Bool) (cursor count : Nat) (keys : List Key) :
    start.walk isMatch cursor count keys = seen cursor count (keys.filter isMatch) := by
  have none : start = seen cursor count [] := by
    simp [start, seen]
  rw [none, walk_seen (Nat.zero_le _), List.nil_append]

/-! ## The page -/

theorem page_seen (cursor count : Nat) (matching : List Key) :
    (seen cursor count matching).page cursor
      = ((matching.drop cursor).take count,
        if cursor + count < matching.length then cursor + count else 0) := by
  by_cases more : cursor + count < matching.length
  · have full : ((matching.drop cursor).take count).length = count := by
      rw [List.length_take, List.length_drop]
      omega
    simp [page, seen, more, full]
  · simp [page, seen, more]

/-- No number in a walk exceeds the number of keys it has been shown. -/
theorem position_walk_le (isMatch : Key → Bool) (cursor count : Nat) (keys : List Key) :
    (start.walk isMatch cursor count keys).position ≤ keys.length := by
  rw [walk_start]
  exact Nat.le_trans (Nat.min_le_left _ _) (List.length_filter_le _ _)

theorem snd_page_walk_le (isMatch : Key → Bool) (cursor count : Nat) (keys : List Key) :
    ((start.walk isMatch cursor count keys).page cursor).2 ≤ keys.length := by
  rw [walk_start, page_seen]
  have fewer := List.length_filter_le isMatch keys
  dsimp only
  split <;> omega

end Paging

/-! ## All pages of a list -/

/-- The page with a given number, and the cursor that it ends with. -/
def numberedPage (count : Nat) (matching : List Key) (number : Nat) : List Key × Nat :=
  ((matching.drop (number * count)).take count,
    if (number + 1) * count < matching.length then (number + 1) * count else 0)

/-- How many pages there are; also an empty list has one. -/
def pageCount (count : Nat) (matching : List Key) : Nat :=
  max 1 (matching.length ⌈/⌉ count)

section

variable {count : Nat} {matching : List Key}

/-- There is a page behind another one if there are keys for it. -/
theorem succ_lt_pageCount_iff (positive : 1 ≤ count) {number : Nat} :
    number + 1 < pageCount count matching ↔ (number + 1) * count < matching.length := by
  have fits : matching.length ⌈/⌉ count ≤ number + 1 ↔ matching.length ≤ count * (number + 1) :=
    ceilDiv_le_iff_le_mul positive
  rw [Nat.mul_comm count] at fits
  unfold pageCount
  omega

theorem length_le_pageCount_mul (positive : 1 ≤ count) :
    matching.length ≤ pageCount count matching * count := by
  have enough : matching.length ≤ count * (matching.length ⌈/⌉ count) :=
    (ceilDiv_le_iff_le_mul positive).1 (Nat.le_refl _)
  rw [Nat.mul_comm count] at enough
  exact Nat.le_trans enough (Nat.mul_le_mul_right _ (Nat.le_max_right _ _))

/-- Consecutive pages are together what stands behind the pages in front of them. -/
theorem flatMap_numberedPage {first pages : Nat}
    (enough : matching.length ≤ (first + pages) * count) :
    ((List.range' first pages).map (numberedPage count matching)).flatMap Prod.fst
      = matching.drop (first * count) := by
  induction pages generalizing first with
  | zero => exact (List.drop_eq_nil_of_le enough).symm
  | succ pages ih =>
    rw [Nat.add_comm pages, ← Nat.add_assoc] at enough
    rw [List.range'_succ, List.map_cons, List.flatMap_cons, ih enough, Nat.succ_mul,
      ← List.drop_drop]
    exact List.take_append_drop _ _

/-- The cursors of all pages but the last are the places at which the next one begins. -/
theorem map_snd_numberedPage (positive : 1 ≤ count) :
    ((List.range (pageCount count matching)).map (numberedPage count matching)).map Prod.snd
      = (List.range' 1 (pageCount count matching - 1)).map (· * count) ++ [0] := by
  obtain ⟨pages, isCount⟩ : ∃ pages, pageCount count matching = pages + 1 :=
    Nat.exists_eq_succ_of_ne_zero (by unfold pageCount; omega)
  have last : ¬(pages + 1) * count < matching.length := by
    rw [← succ_lt_pageCount_iff positive]
    omega
  have others : (List.range pages).map (fun number => (numberedPage count matching number).2)
      = (List.range pages).map fun number => (1 + number) * count := by
    apply List.map_congr_left
    intro number less
    have inside : (number + 1) * count < matching.length := by
      rw [← succ_lt_pageCount_iff positive, isCount]
      exact Nat.succ_lt_succ (List.mem_range.1 less)
    rw [numberedPage, if_pos inside, Nat.add_comm]
  rw [isCount, List.map_map, List.range_succ, List.map_append, Nat.add_sub_cancel,
    List.range'_eq_map_range, List.map_map]
  apply congrArg₂
  · exact others
  · rw [List.map_singleton, Function.comp_apply, numberedPage, if_neg last]

end

/-! ## Scans -/

variable {B : Backend} {session : Session B} {pattern : String} {count : Nat}
  {all matching : List Key}

/-- From any cursor a scan gives the matching keys behind it. -/
theorem scan_eq_ok {now : Instant} {handle held : B.Handle} (positive : 1 ≤ count)
    (filtered : all.filter (Glob.isMatch (Glob.ofText pattern)) = matching)
    (connected : session.handle = some handle) (visits : B.keys now handle = .ok all held)
    (cursor : Nat) :
    scan now cursor pattern count session
      = .ok ((matching.drop cursor).take count,
          if cursor + count < matching.length then cursor + count else 0)
        { session with handle := some held } := by
  have listed : onHandle "SCAN" (B.keys now) session
      = .ok all { session with handle := some held } :=
    onHandle_eq_ok_iff.2 ⟨_, _, connected, visits, rfl⟩
  rw [scan, if_neg (Nat.ne_of_gt positive), Step.bind_of_ok listed, Paging.walk_start,
    Paging.page_seen, filtered]
  rfl

/-- Ask for page after page, each with the cursor of the one before it, until there is
no next one or `limit` pages have been asked for.  The page with number `n`, the first
of which is `asked`, is asked for at the instant `clock n`. -/
def scanOn (clock : Nat → Instant) (pattern : String) (count : Nat) :
    (limit asked cursor : Nat) → Action B (List (List Key × Nat))
  | 0, _, _ => pure []
  | limit + 1, asked, cursor => do
    let page ← scan (clock asked) cursor pattern count
    if page.2 = 0 then return [page]
    else
      let pages ← scanOn clock pattern count limit (asked + 1) page.2
      return page :: pages

/-- From the beginning of a page on, the pages up to the last one are got. -/
theorem scanOn_from_page {clock : Nat → Instant} {handles : Nat → B.Handle}
    (positive : 1 ≤ count)
    (filtered : all.filter (Glob.isMatch (Glob.ofText pattern)) = matching)
    (visits : ∀ n < pageCount count matching,
      B.keys (clock n) (handles n) = .ok all (handles (n + 1)))
    (left limit asked : Nat) (enough : left < limit)
    (behind : asked + left + 1 = pageCount count matching)
    (connected : session.handle = some (handles asked)) :
    scanOn clock pattern count limit asked (asked * count) session
      = .ok ((List.range' asked (left + 1)).map (numberedPage count matching))
        { session with handle := some (handles (asked + left + 1)) } := by
  induction left generalizing session limit asked with
  | zero =>
    obtain ⟨limit, rfl⟩ := Nat.exists_eq_succ_of_ne_zero (Nat.ne_of_gt enough)
    have last : ¬asked * count + count < matching.length := by
      rw [← Nat.succ_mul, ← succ_lt_pageCount_iff positive]
      omega
    have page := scan_eq_ok positive filtered connected (visits asked (by omega)) (asked * count)
    rw [if_neg last] at page
    rw [scanOn, Step.bind_of_ok page, if_pos rfl, List.range'_one, List.map_singleton,
      numberedPage, Nat.succ_mul, if_neg last]
    rfl
  | succ left ih =>
    obtain ⟨limit, rfl⟩ := Nat.exists_eq_succ_of_ne_zero (Nat.ne_of_gt (Nat.zero_lt_of_lt enough))
    have more : asked * count + count < matching.length := by
      rw [← Nat.succ_mul, ← succ_lt_pageCount_iff positive]
      omega
    have page := scan_eq_ok positive filtered connected (visits asked (by omega)) (asked * count)
    rw [if_pos more] at page
    have rest := @ih { session with handle := some (handles (asked + 1)) } limit (asked + 1)
      (Nat.lt_of_succ_lt_succ enough) (by omega) rfl
    have ends : asked + 1 + left + 1 = asked + (left + 1) + 1 := by omega
    rw [Nat.succ_mul, ends] at rest
    have next : asked * count + count ≠ 0 := by omega
    have numbered : numberedPage count matching asked
        = ((matching.drop (asked * count)).take count, asked * count + count) := by
      rw [numberedPage, Nat.succ_mul, if_pos more]
    rw [scanOn, Step.bind_of_ok page, if_neg next, Step.bind_of_ok rest,
      ← numbered, ← List.map_cons, ← List.range'_succ]
    rfl

/-- Scanning loses and repeats nothing.  Whatever the cursor, a scan gives the stretch
of the matching keys that begins there, and no number on the way exceeds the number of
keys.  As long as the keys stay as they are, giving each cursor back yields all matching
keys in order. -/
theorem scan_lists_matching {now : Instant} {handle held : B.Handle} (positive : 1 ≤ count)
    (ascending : all.Pairwise (· < ·)) (connected : session.handle = some handle)
    (visits : B.keys now handle = .ok all held) :
    let isMatch := Glob.isMatch (Glob.ofText pattern)
    let matching := all.filter isMatch
    let total := max 1 (matching.length ⌈/⌉ count)
    matching.Pairwise (· < ·) ∧
      (∀ cursor, scan now cursor pattern count session
        = .ok ((matching.drop cursor).take count,
            if cursor + count < matching.length then cursor + count else 0)
          { session with handle := some held }) ∧
      (∀ cursor shown, shown <+: all →
        (Paging.start.walk isMatch cursor count shown).position ≤ all.length ∧
          ((Paging.start.walk isMatch cursor count shown).page cursor).2 ≤ all.length) ∧
      ∀ (clock : Nat → Instant) (handles : Nat → B.Handle), handles 0 = handle →
        (∀ n < total, B.keys (clock n) (handles n) = .ok all (handles (n + 1))) →
          ∀ limit, total ≤ limit → ∃ pages cursors,
            scanOn clock pattern count limit 0 0 session
                = .ok pages { session with handle := some (handles total) } ∧
              pages.length = total ∧ pages.flatMap Prod.fst = matching ∧
              pages.map Prod.snd = cursors ++ [0] ∧ (0 :: cursors).Pairwise (· < ·) := by
  intro isMatch matching total
  refine ⟨ascending.filter _, scan_eq_ok positive rfl connected visits, ?_, ?_⟩
  · intro cursor shown isPrefix
    have shorter := isPrefix.length_le
    exact ⟨(Paging.position_walk_le isMatch cursor count shown).trans shorter,
      (Paging.snd_page_walk_le isMatch cursor count shown).trans shorter⟩
  · intro clock handles begins unchanged limit enough
    subst begins
    obtain ⟨left, isTotal⟩ : ∃ left, total = left + 1 :=
      Nat.exists_eq_succ_of_ne_zero (by omega)
    have asked := scanOn_from_page positive rfl unchanged left limit 0 (by omega)
      ((Nat.zero_add left).symm ▸ isTotal.symm) connected
    rw [Nat.zero_mul, Nat.zero_add, ← isTotal, ← List.range_eq_range'] at asked
    refine ⟨_, _, asked, ?_, ?_, map_snd_numberedPage positive, ?_⟩
    · rw [List.length_map, List.length_range]
    · rw [List.range_eq_range', flatMap_numberedPage, Nat.zero_mul, List.drop_zero]
      rw [Nat.zero_add]
      exact length_le_pageCount_mul positive
    · have places : (0 :: (List.range' 1 (total - 1)).map (· * count))
          = (List.range total).map (· * count) := by
        rw [isTotal, List.range_eq_range', List.range'_succ, List.map_cons, Nat.zero_mul,
          Nat.add_sub_cancel]
      exact places ▸ List.pairwise_lt_range.map _ fun _ _ less =>
        Nat.mul_lt_mul_of_pos_right less positive

/-- Two of three keys in a file match, and come on one page each. -/
theorem scan_lists_matching_two_of_three :
    let table : TableFile.Table :=
      ((OrderedMap.singleton [0x61] []).insert [0x61, 0x62] []).insert [0x62] []
    let file : TableFile.OpenFile :=
      ⟨"/items", ["items"], OrderedMap.singleton "default" table, "default", fun _ => none⟩
    let session : Session TableFile.backend :=
      ⟨Config.forDatabase "/items", ⟨none, FileTree.ofDirectories [] [], fun _ _ => none⟩,
        some file, false⟩
    ∃ pages cursors, scanOn id "a*" 1 5 0 0 session = .ok pages session ∧ pages.length = 2 ∧
      pages.flatMap Prod.fst = [[0x61], [0x61, 0x62]] ∧
        pages.map Prod.snd = cursors ++ [0] ∧ (0 :: cursors).Pairwise (· < ·) := by
  intro table file session
  have visits (now : Instant) : TableFile.backend.keys now file
      = .ok [[0x61], [0x61, 0x62], [0x62]] file := rfl
  have matching : [[0x61], [0x61, 0x62], [0x62]].filter (Glob.isMatch (Glob.ofText "a*"))
      = [[0x61], [0x61, 0x62]] := by
    have pattern : Glob.ofText "a*" = [.byte 0x61, .run] := by decide
    rw [pattern]
    cbv
  obtain ⟨-, -, -, chain⟩ := @scan_lists_matching TableFile.backend session "a*" 1 _ 0 file file
    (Nat.le_refl 1) (by decide) rfl (visits 0)
  rw [matching] at chain
  exact chain id (fun _ => file) rfl (fun n _ => visits n) 5 (by decide)

end KeyConsole.Session
