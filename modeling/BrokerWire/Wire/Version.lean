namespace BrokerWire

/-- The version of the protocol that a server speaks. Which fields a message has depends on it: each
feature has the first version that knows it. -/
abbrev ServerVersion := Int

namespace ServerVersion

def lowest : ServerVersion := 100

def highest : ServerVersion := 200

end ServerVersion

namespace Since

/-- The first version with the optional capabilities in the opening message of a session. -/
abbrev optionalCapabilities : ServerVersion := 72

abbrev fractionalQuantities : ServerVersion := 101

/-- The first version with orders pegged to a benchmark, adjusted orders and conditions. -/
abbrev benchmarkPegs : ServerVersion := 102

abbrev modelCodes : ServerVersion := 103

abbrev optionChains : ServerVersion := 104

/-- The first version with the operator outside the gateway. -/
abbrev externalOperators : ServerVersion := 105

abbrev softDollarTiers : ServerVersion := 106

abbrev familyCodes : ServerVersion := 107

abbrev matchingSymbols : ServerVersion := 108

/-- The first version with the flag of price ticks past a limit. -/
abbrev pastLimitFlag : ServerVersion := 109

abbrev sizeMultiplier : ServerVersion := 110

abbrev cashQuantities : ServerVersion := 111

/-- The first version with the exchange behind a combined quote. -/
abbrev smartComponents : ServerVersion := 114

abbrev newsProviders : ServerVersion := 115

abbrev newsArticles : ServerVersion := 116

abbrev historicalNews : ServerVersion := 117

abbrev headTimestamps : ServerVersion := 118

abbrev depthServiceTypes : ServerVersion := 120

abbrev aggregationGroups : ServerVersion := 121

abbrev underlyingInfo : ServerVersion := 122

abbrev syntheticBars : ServerVersion := 124

abbrev marketRules : ServerVersion := 126

abbrev profitAndLoss : ServerVersion := 127

/-- The first version with the origin of news queries. -/
abbrev newsOrigins : ServerVersion := 128

abbrev unrealizedProfit : ServerVersion := 129

abbrev historicalTicks : ServerVersion := 130

abbrev marketCapPrice : ServerVersion := 131

abbrev preOpenFlag : ServerVersion := 132

abbrev realExpirations : ServerVersion := 134

abbrev realizedProfit : ServerVersion := 135

abbrev lastLiquidity : ServerVersion := 136

/-- The first version with streams of single ticks. -/
abbrev tickByTick : ServerVersion := 137

abbrev decisionMakers : ServerVersion := 138

abbrev executingTraders : ServerVersion := 139

abbrev tickByTickLimits : ServerVersion := 140

/-- The first version with hedging orders that price themselves. -/
abbrev hedgePricing : ServerVersion := 141

/-- The first version with the margins and commissions of order previews. -/
abbrev previewFields : ServerVersion := 142

abbrev orderContainers : ServerVersion := 145

abbrev smartDepth : ServerVersion := 146

abbrev discretionUpToLimit : ServerVersion := 148

abbrev depthPrimaryExchange : ServerVersion := 149

abbrev completedOrders : ServerVersion := 150

abbrev priceManagement : ServerVersion := 151

abbrev stockTypes : ServerVersion := 152

/-- The first version with messages in seven bits. -/
abbrev asciiMessages : ServerVersion := 153

/-- The first version with the attribute of option computations. -/
abbrev priceVolatilityTicks : ServerVersion := 156

abbrev durations : ServerVersion := 158

abbrev postToAts : ServerVersion := 160

abbrev cancellingParents : ServerVersion := 162

abbrev fractionalSizes : ServerVersion := 163

/-- The first version with size rules in place of multipliers. -/
abbrev sizeRules : ServerVersion := 164

abbrev advancedRejects : ServerVersion := 166

abbrev userInfo : ServerVersion := 167

abbrev manualOrderTimes : ServerVersion := 169

abbrev pegOffsets : ServerVersion := 170

abbrev bondIssuers : ServerVersion := 176

/-- The first version with advisor groups without profiles. -/
abbrev noAdvisorProfiles : ServerVersion := 177

abbrev pendingRevisions : ServerVersion := 178

abbrev fundDetails : ServerVersion := 179

abbrev lastTradeDates : ServerVersion := 182

abbrev customerAccounts : ServerVersion := 183

abbrev professionalCustomers : ServerVersion := 184

abbrev accruedInterest : ServerVersion := 185

abbrev ineligibilityReasons : ServerVersion := 186

abbrev quoteRequests : ServerVersion := 187

abbrev bondTradingHours : ServerVersion := 188

abbrev overnightOrders : ServerVersion := 189

/-- The first version with orders without the fields of requests for quotes. -/
abbrev noQuoteRequests : ServerVersion := 190

/-- The first version with the operator and the manual mark of orders. -/
abbrev operatorTags : ServerVersion := 192

/-- The first version with the operator and the manual mark in reported orders. -/
abbrev operatorTagsReported : ServerVersion := 193

abbrev errorTimes : ServerVersion := 194

abbrev fullPreview : ServerVersion := 195

/-- The first version with the range of historical data in a message of its own. -/
abbrev historicalRangeApart : ServerVersion := 196

abbrev millisecondTime : ServerVersion := 197

/-- The first version with the submitter of orders and fills. -/
abbrev submitters : ServerVersion := 198

/-- The first version with orders that take part in imbalances only. -/
abbrev imbalanceOnly : ServerVersion := 199

abbrev executionDays : ServerVersion := 200

end Since

end BrokerWire
