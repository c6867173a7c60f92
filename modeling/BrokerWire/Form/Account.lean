import BrokerWire.Form.Contract
import BrokerWire.Record.Account

namespace BrokerWire

def PortfolioItem.members : List (Member PortfolioItem) :=
  [
    .of "contract" (·.contract) fun v r => { r with contract := v },
    .opt "position" (·.position) fun v r => { r with position := v },
    .of "marketPrice" (·.marketPrice) fun v r => { r with marketPrice := v },
    .of "marketValue" (·.marketValue) fun v r => { r with marketValue := v },
    .of "averageCost" (·.averageCost) fun v r => { r with averageCost := v },
    .of "unrealizedPnl" (·.unrealizedPnl) fun v r => { r with unrealizedPnl := v },
    .of "realizedPnl" (·.realizedPnl) fun v r => { r with realizedPnl := v },
    .of "accountName" (·.accountName) fun v r => { r with accountName := v }
  ]

instance : JsonForm PortfolioItem := Member.form PortfolioItem.members {}

def Position.members : List (Member Position) :=
  [
    .of "account" (·.account) fun v r => { r with account := v },
    .of "contract" (·.contract) fun v r => { r with contract := v },
    .opt "position" (·.position) fun v r => { r with position := v },
    .of "avgCost" (·.avgCost) fun v r => { r with avgCost := v }
  ]

instance : JsonForm Position := Member.form Position.members {}

end BrokerWire
