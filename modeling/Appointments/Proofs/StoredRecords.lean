-- Weekly hours and bookings that are read back from their documents. A template
-- comes back as it was. A booking comes back with its instants up to the
-- millisecond, whatever its document says of its end.
import Appointments.Booking.Basic
import Appointments.Document.Json
import Appointments.Proofs.StoredBlackouts
namespace Appointments

/-! ## Templates -/

namespace Template

variable {zones : Registry} {defaults : SlotSettings} {t : Template}

theorem read_document (h : t.Sound zones) : Template.read zones defaults t.document = .ok t := by
  refine readFields_eq_ok.2 ⟨⟨?_, ?_, ?_, ?_, ?_⟩, ?_⟩
  · refine FieldName.required_of_lookup rfl ?_
    exact Reading.check_eq_ok.2 ⟨_, rfl, if_neg (by simpa using h.provider_ne)⟩
  · refine FieldName.withDefault_of_lookup rfl ?_
    exact readTimeZone_eq_ok.2 ⟨_, rfl, h.zone_trimmed, h.zone_known⟩
  · exact FieldName.withDefault_of_lookup rfl
      (Value.readIntWithin_int h.slot_least h.slot_greatest)
  · exact FieldName.withDefault_of_lookup rfl
      (Value.readIntWithin_int h.buffer_least h.buffer_greatest)
  · exact FieldName.withDefault_of_lookup rfl rfl
  · exact FieldName.withDefault_of_lookup rfl (h.readWeekly_eq (.inl rfl))

/-- A template whose document is read as a template of the same zone has a zone
that validation keeps. -/
theorem keeps_of_read_document (h : Template.read zones defaults t.document = .ok t) :
    zones.Keeps t.timeZone := by
  obtain ⟨hrest, -⟩ := readFields_eq_ok.1 h
  obtain ⟨s, hs, hstrip, hknown⟩ :=
    readTimeZone_eq_ok.1 (FieldName.read_of_withDefault rfl hrest.timeZone)
  obtain rfl : t.timeZone = s := Value.text.inj hs
  exact ⟨hstrip, hknown⟩

end Template

/-! ## Finite values -/

namespace Value

mutual

theorem finite_finite : (v : Value) → v.finite.finite = v.finite
  | .null | .bool _ | .int _ | .text _ => rfl
  | .float x => by
    cases h : x.isFinite with
    | true => rw [finite, if_pos h, finite, if_pos h]
    | false =>
      rw [finite, h]
      rfl
  | .list items => by rw [finite, finite, finiteItems_finiteItems items]
  | .object fields => by rw [finite, finite, finiteFields_finiteFields fields]

theorem finiteItems_finiteItems : (vs : List Value) →
    finiteItems (finiteItems vs) = finiteItems vs
  | [] => rfl
  | v :: vs => by
    rw [finiteItems, finiteItems, finite_finite v, finiteItems_finiteItems vs]

theorem finiteFields_finiteFields : (fields : List (String × Value)) →
    finiteFields (finiteFields fields) = finiteFields fields
  | [] => rfl
  | (k, v) :: rest => by
    rw [finiteFields, finiteFields, finite_finite v, finiteFields_finiteFields rest]

end

mutual

/-- A value in finite form is as deep as before. -/
theorem levels_finite : (v : Value) → v.finite.levels = v.levels
  | .null | .bool _ | .int _ | .text _ => rfl
  | .float x => by
    unfold finite
    split <;> rfl
  | .list items => by rw [finite, levels, levels, itemLevels_finiteItems items]
  | .object fields => by rw [finite, levels, levels, fieldLevels_finiteFields fields]

theorem itemLevels_finiteItems : (vs : List Value) →
    itemLevels (finiteItems vs) = itemLevels vs
  | [] => rfl
  | v :: vs => by
    rw [finiteItems, itemLevels, itemLevels, levels_finite v, itemLevels_finiteItems vs]

theorem fieldLevels_finiteFields : (fields : List (String × Value)) →
    fieldLevels (finiteFields fields) = fieldLevels fields
  | [] => rfl
  | (k, v) :: rest => by
    rw [finiteFields, fieldLevels, fieldLevels, levels_finite v, fieldLevels_finiteFields rest]

end

end Value

/-! ## Fields that are replaced -/

theorem Json.putField_concat {fields : List (String × Value)} {name : String} {v w : Value}
    (h : name ∉ fields.map Prod.fst) :
    putField (fields ++ [(name, v)]) name w = fields ++ [(name, w)] := by
  have hkeep : fields.map (fun f => if f.1 == name then (name, w) else f) = fields := by
    conv_rhs => rw [← List.map_id fields]
    refine List.map_congr_left fun f hf => if_neg ?_
    rw [beq_iff_eq]
    rintro rfl
    exact h (List.mem_map_of_mem hf)
  unfold putField
  rw [if_pos (by simp), List.map_append, hkeep]
  simp

/-! ## Words and numbers -/

theorem Value.least_of_readIntWithin {v : Value} {least n : Int}
    (h : v.readIntWithin (some least) none = .ok n) : least ≤ n := by
  obtain ⟨m, -, h⟩ := Reading.check_eq_ok.1 h
  split at h
  · cases h
  · rename_i hleast
    cases h
    simpa using hleast

theorem Value.readIntWithin_least {least n : Int} (h : least ≤ n) :
    (Value.int n).readIntWithin (some least) none = .ok n :=
  Reading.check_eq_ok.2 ⟨n, rfl, if_neg (by simpa using h)⟩

theorem Role.read_word (r : Role) : Role.read (.text r.word) = .ok r := by
  cases r <;> decide

theorem Status.read_word (s : Status) : Status.read (.text s.word) = .ok s := by
  cases s <;> decide

/-! ## Bookings -/

namespace Booking

variable {b : Booking}

/-- Each field of the booking has been read, or has its default. -/
structure ReadFrom (fields : List (String × Value)) (b : Booking) : Prop where
  id : idField.required Value.readText fields = .ok b.id
  request : requestField.required Value.readText fields = .ok b.request
  response : responseField.required Value.readText fields = .ok b.response
  provider : providerField.required Value.readText fields = .ok b.provider
  client : clientField.required Value.readText fields = .ok b.client
  start : startField.required Instant.read fields = .ok b.start
  minutes : minutesField.required (Value.readIntWithin (some 1) none) fields = .ok b.minutes
  status : statusField.withDefault .confirmed Status.read fields = .ok b.status
  cancelledAt : cancelledAtField.withDefault none (Value.readOption Instant.read) fields =
    .ok b.cancelledAt
  cancelledBy : cancelledByField.withDefault none (Value.readOption Role.read) fields =
    .ok b.cancelledBy
  cancelReason : cancelReasonField.withDefault none readReason fields = .ok b.cancelReason
  rescheduledFrom : rescheduledFromField.withDefault none (Value.readOption Value.readText)
    fields = .ok b.rescheduledFrom
  rescheduledTo : rescheduledToField.withDefault none (Value.readOption Value.readText) fields =
    .ok b.rescheduledTo
  rescheduledAt : rescheduledAtField.withDefault none (Value.readOption Instant.read) fields =
    .ok b.rescheduledAt
  rescheduleReason : rescheduleReasonField.withDefault none readReason fields =
    .ok b.rescheduleReason
  metadata : metadataField.withDefault [] Value.readFields fields = .ok b.metadata

theorem read_eq_ok {v : Value} :
    Booking.read v = .ok b ↔ ∃ fields, v = .object fields ∧ ReadFrom fields b := by
  unfold Booking.read Value.readRecord
  constructor
  · intro h
    split at h
    · simp only [Reading.seq_eq_ok, Reading.map_eq_ok] at h
      obtain ⟨_, ⟨_, ⟨_, ⟨_, ⟨_, ⟨_, ⟨_, ⟨_, ⟨_, ⟨_, ⟨_, ⟨_, ⟨_, ⟨_, ⟨_, ⟨_, hid, rfl⟩, _, hrequest,
        rfl⟩, _, hresponse, rfl⟩, _, hprovider, rfl⟩, _, hclient, rfl⟩, _, hstart, rfl⟩, _,
        hminutes, rfl⟩, _, hstatus, rfl⟩, _, hcancelledAt, rfl⟩, _, hcancelledBy, rfl⟩, _,
        hcancelReason, rfl⟩, _, hfrom, rfl⟩, _, hto, rfl⟩, _, hrescheduledAt, rfl⟩, _,
        hrescheduleReason, rfl⟩, _, hmetadata, rfl⟩ := h
      exact ⟨_, rfl, hid, hrequest, hresponse, hprovider, hclient, hstart, hminutes, hstatus,
        hcancelledAt, hcancelledBy, hcancelReason, hfrom, hto, hrescheduledAt, hrescheduleReason,
        hmetadata⟩
    · cases h
  · rintro ⟨fields, rfl, h⟩
    dsimp only
    rw [h.id, h.request, h.response, h.provider, h.client, h.start, h.minutes, h.status,
      h.cancelledAt, h.cancelledBy, h.cancelReason, h.rescheduledFrom, h.rescheduledTo,
      h.rescheduledAt, h.rescheduleReason, h.metadata]
    rfl

/-- What a document keeps of a booking: instants up to the millisecond, and
metadata in finite form. -/
def kept (b : Booking) : Booking :=
  { b with
    start := b.start.wholeMillis
    cancelledAt := b.cancelledAt.map Instant.wholeMillis
    rescheduledAt := b.rescheduledAt.map Instant.wholeMillis
    metadata := Value.finiteFields b.metadata }

theorem fields_kept (b : Booking) : b.kept.fields = b.fields := by
  have hinstant (t : Option Instant) :
      Value.ofOption (fun t : Instant => Value.text t.document) (t.map Instant.wholeMillis) =
        Value.ofOption (fun t : Instant => Value.text t.document) t := by
    cases t with
    | none => rfl
    | some t => exact congrArg Value.text t.document_wholeMillis
  unfold fields kept
  dsimp only
  rw [hinstant, hinstant, b.start.document_wholeMillis, Value.finite, Value.finite,
    Value.finiteFields_finiteFields]

theorem stop_kept {stop : Instant} (h : b.stop = .ok stop) :
    b.kept.stop = .ok stop.wholeMillis := by
  obtain ⟨span, hspan, hstop⟩ := bind_eq_ok.1 h
  have hmicros : span.micros = b.minutes * Micros.minute := Span.micros_of_ofMicros hspan
  refine bind_eq_ok.2 ⟨span, hspan, ?_⟩
  unfold Instant.after at hstop ⊢
  rw [Instant.shift_eq_ok] at hstop ⊢
  unfold kept Instant.wholeMillis
  dsimp only
  rw [hmicros, Micros.minute_eq] at hstop ⊢
  omega

/-- The fields of an accepted booking are read back, each by itself and whatever
follows them. -/
theorem read_fields {given : Value} (h : Booking.read given = .ok b) (hstart : 1000 ≤ b.start.year)
    (hcancelled : ∀ t, b.cancelledAt = some t → 1000 ≤ t.year)
    (hrescheduled : ∀ t, b.rescheduledAt = some t → 1000 ≤ t.year)
    (rest : List (String × Value)) :
    Booking.read (.object (b.fields ++ rest)) = .ok b.kept := by
  obtain ⟨own, -, hread⟩ := read_eq_ok.1 h
  have hminutes : 1 ≤ b.minutes := by
    obtain ⟨v, hv⟩ := FieldName.exists_of_required hread.minutes
    exact Value.least_of_readIntWithin hv
  have hinstant {x : Option Instant} (hx : ∀ t, x = some t → 1000 ≤ t.year) :
      Value.readOption Instant.read (Value.ofOption (fun t : Instant => .text t.document) x) =
        .ok (x.map Instant.wholeMillis) :=
    Value.readOption_ofOption nofun fun t ht => Instant.read_document (hx t ht)
  have hrole : Value.readOption Role.read
      (Value.ofOption (fun r : Role => .text r.word) b.cancelledBy) = .ok b.cancelledBy :=
    Value.readOption_ofOption_self nofun fun r _ => r.read_word
  have hlink (x : Option String) :
      Value.readOption Value.readText (Value.ofOption .text x) = .ok x :=
    Value.readOption_ofOption_self nofun fun _ _ => rfl
  have hlookup {name : String} {v : Value} (hown : b.fields.lookup name = some v) :
      (b.fields ++ rest).lookup name = some v := by
    rw [List.lookup_append, hown]
    rfl
  exact read_eq_ok.2 ⟨_, rfl, {
    id := FieldName.required_of_lookup (hlookup rfl) rfl
    request := FieldName.required_of_lookup (hlookup rfl) rfl
    response := FieldName.required_of_lookup (hlookup rfl) rfl
    provider := FieldName.required_of_lookup (hlookup rfl) rfl
    client := FieldName.required_of_lookup (hlookup rfl) rfl
    start := FieldName.required_of_lookup (hlookup rfl) (Instant.read_document hstart)
    minutes := FieldName.required_of_lookup (hlookup rfl) (Value.readIntWithin_least hminutes)
    status := FieldName.withDefault_of_lookup (hlookup rfl) b.status.read_word
    cancelledAt := FieldName.withDefault_of_lookup (hlookup rfl) (hinstant hcancelled)
    cancelledBy := FieldName.withDefault_of_lookup (hlookup rfl) hrole
    cancelReason := FieldName.withDefault_of_lookup (hlookup rfl)
      (Value.readOption_text (FieldName.length_of_withDefault hread.cancelReason))
    rescheduledFrom := FieldName.withDefault_of_lookup (hlookup rfl) (hlink _)
    rescheduledTo := FieldName.withDefault_of_lookup (hlookup rfl) (hlink _)
    rescheduledAt := FieldName.withDefault_of_lookup (hlookup rfl) (hinstant hrescheduled)
    rescheduleReason := FieldName.withDefault_of_lookup (hlookup rfl)
      (Value.readOption_text (FieldName.length_of_withDefault hread.rescheduleReason))
    metadata := FieldName.withDefault_of_lookup (hlookup rfl) rfl }⟩

/-- The document of a booking, unless its metadata is too deep. -/
theorem document_of_stop {stop : Instant} (h : b.stop = .ok stop) : b.document =
    if Value.maxLevels < Value.fieldLevels b.metadata then .error .tooDeep
    else .ok (.object (b.fields ++ [(stopField.document, .text stop.document)])) := by
  unfold document
  rw [h]
  split <;> rfl

/-- The end has its place behind the fields of the record. -/
theorem putField_stop (b : Booking) (v w : Value) :
    Json.putField (b.fields ++ [(stopField.document, v)]) stopField.document w =
      b.fields ++ [(stopField.document, w)] := by
  have hnames : stopField.document ∉ b.fields.map Prod.fst := by
    simp only [fields, List.map_cons, List.map_nil]
    decide
  exact Json.putField_concat hnames

end Booking

/-! ## What is stored and read back -/

/-- An accepted template is read back from its document as it was if and only
if validation keeps its zone, as it does unless the zone is the default. An
accepted booking, whose metadata is JSON data, is read back with its instants up
to the millisecond and with null for numbers that are not finite, whatever
stands for its end, and is written as the same document again. Only metadata
that is too deep has no document. -/
theorem documents_are_read_back {zones : Registry} {defaults : SlotSettings}
    (hdefaults : defaults.check = .ok ()) :
    (∀ v t, Template.read zones defaults v = .ok t →
      (t.timeZone = defaults.timeZone ∨ zones.Keeps t.timeZone) ∧
        ∀ others, Template.read zones others t.document = .ok t ↔ zones.Keeps t.timeZone) ∧
      ∀ v b stop, Booking.read v = .ok b → b.stop = .ok stop → 1000 ≤ b.start.year →
        (∀ t, b.cancelledAt = some t → 1000 ≤ t.year) →
        (∀ t, b.rescheduledAt = some t → 1000 ≤ t.year) →
        if Value.maxLevels < Value.fieldLevels b.metadata then b.document = .error .tooDeep
        else ∃ fields, b.document = .ok (.object fields) ∧
          (∀ w, Booking.read (.object (Json.putField fields Booking.stopField.document w)) =
            .ok b.kept) ∧
          b.kept.document = .ok (.object fields) := by
  constructor
  · intro v t h
    unfold Template.read Value.readRecord at h
    split at h
    · exact ⟨Template.keeps_of_readFields h, fun others => ⟨Template.keeps_of_read_document,
        fun hzone => Template.read_document (Template.sound_of_keeps hdefaults hzone h)⟩⟩
    · cases h
  · intro v b stop h hstop hstart hcancelled hrescheduled
    have hdocument := Booking.document_of_stop hstop
    have hagain := Booking.document_of_stop (Booking.stop_kept hstop)
    have hlevels : Value.fieldLevels b.kept.metadata = Value.fieldLevels b.metadata :=
      Value.fieldLevels_finiteFields _
    rw [hlevels, Booking.fields_kept, Instant.document_wholeMillis] at hagain
    split
    · rename_i hdeep
      rw [hdocument, if_pos hdeep]
    · rename_i hlevel
      rw [if_neg hlevel] at hdocument hagain
      refine ⟨_, hdocument, fun w => ?_, hagain⟩
      rw [Booking.putField_stop]
      exact Booking.read_fields h hstart hcancelled hrescheduled _

/-! ## The small practice -/

namespace Practice

/-- What is given of a booking that was cancelled, under names of both kinds. -/
def cancelledRecord (metadata : List (String × Value)) : Value :=
  .object [("id", .text "a"), ("request_id", .text "request"), ("responseId", .text "response"),
    ("provider_user_id", .text "doctor"), ("clientId", .text "patient"),
    ("startAt", .text "2026-03-02T11:00:00.000700+01:00"), ("duration_min", .text " 60 "),
    ("status", .text "cancelled"), ("cancelledAt", .text "2026-02-23T08:30:00.999999"),
    ("cancelledBy", .text "client"), ("cancel_reason", .text " Ill "),
    ("metadata", .object metadata)]

def cancelledBooking (metadata : List (String × Value)) : Booking :=
  { booked with
    start := ⟨739676 * Micros.day + 10 * Micros.hour + 700, by decide⟩
    status := .cancelled
    cancelledAt := some ⟨739669 * Micros.day + 30600999999, by decide⟩
    cancelledBy := some .client
    cancelReason := some " Ill "
    metadata := metadata }

/-- An hour later. -/
def cancelledStop : Instant := ⟨739676 * Micros.day + 11 * Micros.hour + 700, by decide⟩

theorem cancelledBooking_stop (metadata : List (String × Value)) :
    (cancelledBooking metadata).stop = .ok cancelledStop := by
  have hstop : (cancelledBooking []).stop = .ok cancelledStop := by
    apply toOption_eq_some.1
    decide +kernel
  exact hstop

/-- A number without end, and a list. -/
def notes : List (String × Value) :=
  [("score", .float (.infinite false)), ("tags", .list [.text "first", .int 2])]

/-- What is given of the doctor's hours, under names of both kinds. -/
def givenHours : Value :=
  .object [("provider_user_id", .text "doctor"), ("timeZone", .text " UTC "),
    ("buffer_min", .text "15"), ("weekly", .list [DayHours.toValue FieldName.plain ⟨1, [morning]⟩])]

/-- The doctor's hours and a cancelled booking are read back, the booking with
nonsense for its end. -/
theorem cancelled_booking_is_read_back :
    Template.read .standard {} hoursWithPauses.document = .ok hoursWithPauses ∧
      ∃ fields, (cancelledBooking notes).document = .ok (.object fields) ∧
        Booking.read (.object (Json.putField fields "endAt" (.list []))) =
          .ok { cancelledBooking [("score", .null), ("tags", .list [.text "first", .int 2])] with
            start := ten
            cancelledAt := some ⟨739669 * Micros.day + 30600999000, by decide⟩ } := by
  have hhours : Template.read .standard {} givenHours = .ok hoursWithPauses := by decide +kernel
  have hgiven : Booking.read (cancelledRecord notes) = .ok (cancelledBooking notes) := by
    decide +kernel
  have hstart : 1000 ≤ (cancelledBooking notes).start.year := by decide +kernel
  have hcancelled : ∀ t, (cancelledBooking notes).cancelledAt = some t → 1000 ≤ t.year := by
    decide +kernel
  have hzone : Registry.standard.Keeps hoursWithPauses.timeZone :=
    ⟨by decide +kernel, by decide +kernel⟩
  have hdefaults : ({} : SlotSettings).check = .ok () := by decide
  obtain ⟨htemplates, hbookings⟩ := documents_are_read_back hdefaults
  have hread := hbookings _ _ _ hgiven (cancelledBooking_stop notes) hstart hcancelled nofun
  rw [if_neg (by decide)] at hread
  obtain ⟨fields, hdocument, hloads, -⟩ := hread
  exact ⟨((htemplates _ _ hhours).2 {}).2 hzone, fields, hdocument, hloads _⟩

/-- So many lists inside one another. -/
def nested : Nat → Value
  | 0 => .null
  | n + 1 => .list [nested n]

/-- The template that is read where no zone and no hours are given. -/
def zoneless (defaultZone : String) : Template :=
  { hours with timeZone := defaultZone, weekly := [] }

/-- Not everything that is accepted is read back as it was: metadata that is too
deep has no document, a number without end is lost, and so is the default zone
where it is not known or stands between blanks. -/
theorem some_records_are_lost :
    (Booking.read (cancelledRecord [("deep", nested 255)]) =
        .ok (cancelledBooking [("deep", nested 255)]) ∧
      (cancelledBooking [("deep", nested 255)]).document = .error .tooDeep) ∧
    (Booking.read (cancelledRecord notes) = .ok (cancelledBooking notes) ∧
      ∃ v b, (cancelledBooking notes).document = .ok v ∧ Booking.read v = .ok b ∧
        b.metadata ≠ (cancelledBooking notes).metadata) ∧
    ∀ name ∈ ["Nowhere", " UTC "],
      Template.read .standard { timeZone := name } (.object [("providerUserId", .text "doctor")]) =
          .ok (zoneless name) ∧
        Template.read .standard { timeZone := name } (zoneless name).document ≠
          .ok (zoneless name) := by
  have hgiven : Booking.read (cancelledRecord notes) = .ok (cancelledBooking notes) := by
    decide +kernel
  refine ⟨⟨by decide +kernel, ?_⟩, ⟨hgiven, ?_⟩, by decide +kernel⟩
  · rw [Booking.document_of_stop (cancelledBooking_stop _), if_pos (by decide +kernel)]
  · refine ⟨_, (cancelledBooking notes).kept, Booking.document_of_stop (cancelledBooking_stop _),
      Booking.read_fields hgiven ?_ ?_ nofun _, ?_⟩
    · decide +kernel
    · decide +kernel
    · decide +kernel

end Practice
end Appointments
