import PgDog.Net.Wire
import PgDog.Net.Messages
import PgDog.Net.RoundTrip
import PgDog.Net.Bounds
import PgDog.Net.Decimal
import PgDog.Net.Columns
import PgDog.Backend.Server
import PgDog.Backend.Connect
import PgDog.Frontend.Router.Ast
import PgDog.Frontend.Router.Route
import PgDog.Frontend.Buffer
import PgDog.Frontend.Client
import PgDog.Frontend.Router.QueryParser
import PgDog.Frontend.Router.Sharding
import PgDog.Frontend.Router.Affinity
import PgDog.Frontend.Router.Value
import PgDog.Backend.SortBuffer
import PgDog.Stats
