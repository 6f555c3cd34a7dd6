import CodeServer.Go.Time
import CodeServer.Go.TimeText
import CodeServer.Go.Strings
import CodeServer.Data.Cache
import CodeServer.Data.Exchange
import CodeServer.Data.Exchange.Transparency
import CodeServer.Data.Timelock.Model
import CodeServer.Data.Timelock.Effects
import CodeServer.Data.Timelock.Served
import CodeServer.Data.Timelock.Staleness
import CodeServer.Data.Timelock.Locking
import CodeServer.Chat.Model
import CodeServer.Chat.Settle
import CodeServer.Chat.Receivers
import CodeServer.Chat.History
import CodeServer.Thirdparty.Domain
