import Herald.Store

/-! # Labels of rows

Every row has a short label for logs and consoles: what it is, and the columns by which a reader
recognizes it.
-/

namespace Herald

/-- The first text that is not empty, or else the id. -/
def nameOrId (names : List (Option String)) (id : Int) : String :=
  match names.find? fun name => name.any fun name => !name.isEmpty with
  | some (some name) => name
  | _ => String.ofList (Text.intText id)

def Definition.rowLabel (row : Definition) : String :=
  s!"<AttributeDefinition {row.target}.{row.key}:{row.kind}>"

def Target.customerLabel (target : Target) : String :=
  s!"<Customer {nameOrId [target.name, target.phone] target.id}>"

def Target.serviceLabel (target : Target) : String :=
  let expiry := match target.expiryAt with
    | some moment => moment.spaced
    | none => Value.null.inSentence
  s!"<Service {nameOrId [target.name] target.id} expires {expiry}>"

def Campaign.rowLabel {α : Type} (campaign : Campaign α) : String :=
  s!"<Campaign {campaign.id} {campaign.name} [{campaign.status.name}]>"

def Cooldown.rowLabel (row : Cooldown) : String :=
  s!"<Cooldown campaign={row.campaign} {row.target}#{row.targetId} at {row.sentAt.spaced}>"

def Message.rowLabel {α : Type} (message : Message α) : String :=
  s!"<Message {message.channel.name} to {message.recipient} [{message.status.name}]>"

def Balance.rowLabel {α : Type} [Amount α] (balance : Balance α) : String :=
  s!"<TenantBalance {balance.tenant}: {(Amount.read pricePlaces balance.amount).text}>"

/-- The labels of all rows, table by table. -/
def Store.labels {α : Type} [Amount α] (store : Store α) : List String :=
  store.definitions.map Definition.rowLabel ++ store.customers.map Target.customerLabel ++
    store.services.map Target.serviceLabel ++ store.campaigns.map Campaign.rowLabel ++
    store.cooldowns.map Cooldown.rowLabel ++ store.messages.map Message.rowLabel ++
    store.balances.map Balance.rowLabel

end Herald
