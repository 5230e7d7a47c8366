import PgDoorman.Wire.Bytes
import PgDoorman.Wire.Utf8
import PgDoorman.Wire.Cursor
import PgDoorman.Wire.Str
import PgDoorman.Wire.Buffer
import PgDoorman.Wire.Lowercase
import PgDoorman.Net.IpAddr
import PgDoorman.SortedMap
import PgDoorman.Basic
import PgDoorman.Messages.Startup
import PgDoorman.Messages.Parse
import PgDoorman.Messages.Extended
import PgDoorman.Client.BatchHandling
import PgDoorman.Messages.Response
import PgDoorman.Transition.Run
import PgDoorman.Lru
import PgDoorman.Select.Indexed
import PgDoorman.Pool.Coordinator
import PgDoorman.Pool.Slots
import PgDoorman.Pool.Dynamic
import PgDoorman.Pool.Eviction
import PgDoorman.Pool.Retain
import PgDoorman.Pool.Fallback
import PgDoorman.PatroniProxy.Port
import PgDoorman.Server.PreparedStatementCache
import PgDoorman.Server.Backend
import PgDoorman.Server.Soundness
import PgDoorman.Server.Parameters
import PgDoorman.Client.Migration
import PgDoorman.Auth.Hba
import PgDoorman.Auth.Scram
import PgDoorman.Config.HumanReadable
import PgDoorman.Server.Cleanup
import PgDoorman.Config.StartupParameters
