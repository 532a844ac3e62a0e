import Herald.Campaign.Lifecycle
import Herald.Store.RowPart

/-! # The columns of a campaign

Every column of a campaign can be written on its own, whatever the status: this is how a row is
corrected by hand. A campaign that is sending can be finished with columns written along with its
new status. A write goes through the types of the columns, all of it or nothing.
-/

namespace Herald.Campaign

variable {σ α : Type}

/-! ## Columns -/

/-- What identifies the campaign and when it was written. -/
def identityColumns : List (Column (Campaign α)) :=
  [.reading "id" Column.rowId fun campaign id => { campaign with id },
    .wordNamed "tenant_id" fun campaign tenant => { campaign with tenant },
    .instantNamed "created_at" fun campaign createdAt => { campaign with createdAt },
    .instantNamed "updated_at" fun campaign updatedAt => { campaign with updatedAt }]

/-- What the campaign is and sends. -/
def contentColumns : List (Column (Campaign α)) :=
  [.wordNamed "name" fun campaign name => { campaign with name },
    .wordNamed "target_type" fun campaign target => { campaign with target },
    .wordNamed "channel" fun campaign word => { campaign with reach := .ofStored word },
    .textNamed "sender" fun campaign text => { campaign with content.sender := text },
    .textNamed "email_sender" fun campaign text => { campaign with content.emailSender := text },
    .textNamed "email_display_name" fun campaign text =>
      { campaign with content.emailDisplayName := text },
    .textNamed "message_template" fun campaign text => { campaign with content.template := text },
    .textNamed "email_subject" fun campaign text => { campaign with content.emailSubject := text },
    .textNamed "email_body" fun campaign text => { campaign with content.emailBody := text },
    .dataNamed "filter" fun campaign filter => { campaign with filter }]

/-- Where the campaign stands. -/
def statusColumns : List (Column (Campaign α)) :=
  [.wordNamed "status" fun campaign word => { campaign with status := .ofStored word },
    .wordNamed "campaign_type" fun campaign word => { campaign with recurrence := .ofStored word },
    .flagNamed "is_test" fun campaign isTest => { campaign with isTest },
    .textNamed "pause_reason" fun campaign pauseReason => { campaign with pauseReason },
    .textNamed "failure_reason" fun campaign failureReason => { campaign with failureReason },
    .textNamed "created_by" fun campaign createdBy => { campaign with createdBy }]

/-- When the campaign runs. -/
def timeColumns : List (Column (Campaign α)) :=
  [.momentNamed "scheduled_at" fun campaign scheduledAt => { campaign with scheduledAt },
    .cellNamed "check_interval_minutes" fun campaign minutes =>
      { campaign with checkMinutes := minutes },
    .countNamed "cooldown_days" fun campaign cooldownDays => { campaign with cooldownDays },
    .cellNamed "run_start_hour" fun campaign hour => { campaign with window.start := hour },
    .cellNamed "run_end_hour" fun campaign hour => { campaign with window.finish := hour },
    .momentNamed "next_run_at" fun campaign nextRunAt => { campaign with nextRunAt },
    .momentNamed "last_run_at" fun campaign lastRunAt => { campaign with lastRunAt },
    .momentNamed "ends_at" fun campaign endsAt => { campaign with endsAt },
    .countNamed "run_count" fun campaign runCount => { campaign with runCount },
    .momentNamed "started_at" fun campaign startedAt => { campaign with startedAt },
    .momentNamed "completed_at" fun campaign completedAt => { campaign with completedAt }]

/-- What the passes have added up. -/
def aggregateColumns [Amount α] : List (Column (Campaign α)) :=
  [.countNamed "target_count" fun campaign targetCount => { campaign with targetCount },
    .countNamed "sent_count" fun campaign count => { campaign with sms.sent := count },
    .countNamed "delivered_count" fun campaign count => { campaign with sms.delivered := count },
    .countNamed "failed_count" fun campaign count => { campaign with sms.failed := count },
    .amountNamed "total_cost" fun campaign cost => { campaign with sms.cost := cost },
    .countNamed "email_sent_count" fun campaign count => { campaign with email.sent := count },
    .countNamed "email_delivered_count" fun campaign count =>
      { campaign with email.delivered := count },
    .countNamed "email_failed_count" fun campaign count => { campaign with email.failed := count },
    .amountNamed "email_total_cost" fun campaign cost => { campaign with email.cost := cost }]

/-- The columns, in the order of the table. -/
def columns [Amount α] : List (Column (Campaign α)) :=
  identityColumns ++ contentColumns ++ statusColumns ++ timeColumns ++ aggregateColumns

/-- What a campaign has beside its columns and the parts of every row. -/
def ownParts : List String :=
  ["total_sent", "total_failed", "requires_phone", "requires_email", "is_automated", "has_ended"]

/-- The part of a name that is no column. -/
def part? (name : String) : Option RowPart :=
  if ownParts.contains name then some .other else RowPart.ofName? name

/-- Why a name cannot even be looked for among the columns: the campaign has no such part, or the
part is no single thing. -/
def partRefusal? (name : String) : Option Failure :=
  match part? name with
  | none => some .missingPart
  | some .collection => some .unexpectedField
  | some _ => none

/-- Names that an operation has a use of its own for, so that no column is given under them. -/
def takenNames : List String := ["campaign_id", "db", "self", "status"]

/-- Why names cannot stand for columns of a table. A name that leads to another name is only missed
when the columns are looked up, which is later than anything else. -/
def namesRefusal? {ρ : Type} (table : List (Column ρ)) (names : List String) : Option Failure :=
  let others := names.filter fun name => !Column.isAmong table name
  if names.any takenNames.contains then some .unexpectedField
  else (others.findSome? partRefusal?).or
    (if others.isEmpty then none
      else if others.all fun name => part? name == some .word then some .unknownColumn
      else some .notColumn)

/-! ## Writing -/

/-- The tables with a change made to the campaign of an id if its status allows it, and whether it
does. No two campaigns get the same id. -/
def writeIn (id : Int) (allowed : CampaignStatus → Bool)
    (changes : Except Failure (Campaign α → Campaign α)) (store : Store α) :
    Except Failure (Bool × Store α) := do
  let _ ← Column.before 2 changes
  let id ← Cell.fitted id
  match (store.campaign? id).filter fun campaign => allowed campaign.status with
  | none => return (false, store)
  | some campaign =>
    let campaign := (← changes) campaign
    let others := store.campaigns.filter fun other => other.id != id
    if others.any fun other => other.id == campaign.id then throw .refusedRow
    return (true, { store with campaigns := insertById Campaign.id campaign others })

/-- Write columns of a stored campaign. The time of the change is the time now unless it is written
as well. -/
def write [Amount α] (id : Int) (fields : Fields) : Run σ α Unit := do
  let table : List (Column (Campaign α)) := columns
  if !fields.names.all (Column.isAmong table) then throw .unknownColumn
  let now ← Run.clock
  let changes := Column.changes table ((Fields.put [] "updated_at" (.moment now)).putAll fields)
  let _ ← Run.pure? (Column.before 1 changes)
  let _ ← Run.commit (writeIn id (fun _ => true) changes)

/-- Leave the sending state with columns written as well, and tell whether the campaign was still in
it. The new status and the time of the change are no such columns. -/
def finish [Amount α] (id : Int) (status : CampaignStatus) (fields : Fields) : Run σ α Bool := do
  let table : List (Column (Campaign α)) := columns
  if let some refusal := namesRefusal? table fields.names then throw refusal
  let now ← Run.clock
  let changes := (Column.changes table (fields.put "updated_at" (.moment now))).map
    fun change campaign => { change campaign with status }
  let _ ← Run.pure? (Column.before 1 changes)
  Run.commit (writeIn id (· == .sending) changes)

end Herald.Campaign
