import ClusterProxy.Search
import ClusterProxy.Text.Utf8

/-!
# The supported commands

A command's `Shape` says where its keys are, which is all that routing needs to know about it. How
many further arguments a command takes is left to the node that runs it.

`Command.all` is the table of the supported commands, those with shorter names first. Each has an
identifier, whose number is its place in the table. `Command.classify` finds the identifier of a
name, in any letter case: a binary search leads to the names of its length, and only they are
compared with it. `Command.find?` looks up the rest of the command by the identifier.
-/

namespace ClusterProxy

/-- Where a command has its keys. -/
inductive Shape where
  /-- Nowhere. -/
  | noKey
  /-- The first argument is the key and the last argument. -/
  | keyOnly
  /-- The key, then one argument. -/
  | keyAndOne
  /-- The key, then two arguments. -/
  | keyAndTwo
  /-- The key, then three arguments. -/
  | keyAndThree
  /-- The key, then any arguments. -/
  | keyAndAny
  /-- Every argument is a key. -/
  | keys
  /-- Keys and their values in turn. -/
  | pairs
  /-- A script, the number of keys, that many keys, then any arguments. -/
  | script
deriving DecidableEq, Repr

namespace Shape

/-- Whether every request of this shape carries a key. A script may have none. -/
def requiresKey : Shape → Bool
  | noKey => false
  | script => false
  | _ => true

/-- Whether the first argument is the only key. -/
def isSingleKey : Shape → Bool
  | keyOnly => true
  | keyAndOne => true
  | keyAndTwo => true
  | keyAndThree => true
  | keyAndAny => true
  | _ => false

end Shape

/-- The identifiers of the supported commands, and `unknown` for a name of none of them. -/
inductive Command.Id where
  | get | set | ttl | del | auth | copy | decr | dump | echo | eval | hdel | hget | hlen | hset
  | incr | llen | lpop | lpos | lrem | lset | mget | mset | ping | pttl | quit | rpop | sadd | sort
  | spop | srem | time | type | xack | xadd | xdel | xlen | zadd | zrem | fcall | getEx | hkeys
  | hmget | hmset | hscan | hvals | lmove | lpush | ltrim | pfAdd | rpush | scard | sdiff | setEx
  | setNx | smove | sscan | touch | xtrim | zcard | zrank | zscan | append | bitPos | blmove
  | dbSize | decrBy | exist | expire | geoAdd | geoPos | getBit | getDel | getSet | hsetNx | incrBy
  | lindex | lpushX | lrange | msetNx | psetEx | rename | rpushX | setBit | sinter | strlen | substr
  | sunion | unlink | xclaim | xrange | zcount | zrange | zscore | evalRo | evalSha | geoDist
  | geoHash | hexists | hgetAll | hincrBy | hstrlen | linsert | persist | pexpire | pfCount
  | pfMerge | restore | sortRo | zincrBy | zmScore | zpopMax | zpopMin | bitCount | bitField
  | expireAt | fcallRo | getRange | lastSave | readOnly | renameNx | setRange | smembers | xpending
  | zrevRank | geoRadius | geoSearch | pexpireAt | randomKey | readWrite | rpopLpush | sisMember
  | xrevRange | zlexCount | zrevRange | brpopLpush | evalShaRo | expireTime | hrandField
  | sdiffStore | smisMember | xautoClaim | zdiffStore | bitFieldRo | incrByFloat | pexpireTime
  | sinterStore | srandMember | sunionStore | zinterStore | zrandMember | zrangeByLex | zrangeStore
  | zunionStore | hincrByFloat | zrangeByScore | geoSearchStore | zremRangeByLex | zrevRangeByLex
  | zremRangeByRank | zremRangeByScore | zrevRangeByScore | geoRadiusByMember | unknown
deriving DecidableEq, Repr

/-- A supported command: its identifier, its name in upper case, and its shape. -/
structure Command where
  id : Command.Id
  name : String
  shape : Shape
deriving DecidableEq, Repr

namespace Command

/-- Every supported command, by the length of its name. A command stands at the place that is the
number of its identifier. -/
def all : List Command :=
  [ ⟨.get, "GET", .keyOnly⟩, ⟨.set, "SET", .keyAndAny⟩, ⟨.ttl, "TTL", .keyOnly⟩,
    ⟨.del, "DEL", .keys⟩,
    ⟨.auth, "AUTH", .noKey⟩, ⟨.copy, "COPY", .keyAndAny⟩, ⟨.decr, "DECR", .keyOnly⟩,
    ⟨.dump, "DUMP", .keyOnly⟩, ⟨.echo, "ECHO", .noKey⟩, ⟨.eval, "EVAL", .script⟩,
    ⟨.hdel, "HDEL", .keyAndAny⟩, ⟨.hget, "HGET", .keyAndOne⟩, ⟨.hlen, "HLEN", .keyOnly⟩,
    ⟨.hset, "HSET", .keyAndTwo⟩, ⟨.incr, "INCR", .keyOnly⟩, ⟨.llen, "LLEN", .keyOnly⟩,
    ⟨.lpop, "LPOP", .keyOnly⟩, ⟨.lpos, "LPOS", .keyAndAny⟩, ⟨.lrem, "LREM", .keyAndTwo⟩,
    ⟨.lset, "LSET", .keyAndTwo⟩, ⟨.mget, "MGET", .keys⟩, ⟨.mset, "MSET", .pairs⟩,
    ⟨.ping, "PING", .noKey⟩, ⟨.pttl, "PTTL", .keyOnly⟩, ⟨.quit, "QUIT", .noKey⟩,
    ⟨.rpop, "RPOP", .keyOnly⟩, ⟨.sadd, "SADD", .keyAndAny⟩, ⟨.sort, "SORT", .keyAndAny⟩,
    ⟨.spop, "SPOP", .keyOnly⟩, ⟨.srem, "SREM", .keyAndAny⟩, ⟨.time, "TIME", .noKey⟩,
    ⟨.type, "TYPE", .keyOnly⟩, ⟨.xack, "XACK", .keyAndAny⟩, ⟨.xadd, "XADD", .keyAndAny⟩,
    ⟨.xdel, "XDEL", .keyAndAny⟩, ⟨.xlen, "XLEN", .keyOnly⟩, ⟨.zadd, "ZADD", .keyAndAny⟩,
    ⟨.zrem, "ZREM", .keyAndAny⟩,
    ⟨.fcall, "FCALL", .script⟩, ⟨.getEx, "GETEX", .keyAndAny⟩, ⟨.hkeys, "HKEYS", .keyOnly⟩,
    ⟨.hmget, "HMGET", .keyAndAny⟩, ⟨.hmset, "HMSET", .keyAndAny⟩, ⟨.hscan, "HSCAN", .keyAndAny⟩,
    ⟨.hvals, "HVALS", .keyOnly⟩, ⟨.lmove, "LMOVE", .keyAndThree⟩, ⟨.lpush, "LPUSH", .keyAndAny⟩,
    ⟨.ltrim, "LTRIM", .keyAndTwo⟩, ⟨.pfAdd, "PFADD", .keyAndAny⟩, ⟨.rpush, "RPUSH", .keyAndAny⟩,
    ⟨.scard, "SCARD", .keyOnly⟩, ⟨.sdiff, "SDIFF", .keyAndAny⟩, ⟨.setEx, "SETEX", .keyAndTwo⟩,
    ⟨.setNx, "SETNX", .keyAndOne⟩, ⟨.smove, "SMOVE", .keyAndTwo⟩, ⟨.sscan, "SSCAN", .keyAndAny⟩,
    ⟨.touch, "TOUCH", .keys⟩, ⟨.xtrim, "XTRIM", .keyAndAny⟩, ⟨.zcard, "ZCARD", .keyOnly⟩,
    ⟨.zrank, "ZRANK", .keyAndOne⟩, ⟨.zscan, "ZSCAN", .keyAndAny⟩,
    ⟨.append, "APPEND", .keyAndOne⟩, ⟨.bitPos, "BITPOS", .keyAndAny⟩,
    ⟨.blmove, "BLMOVE", .keyAndAny⟩, ⟨.dbSize, "DBSIZE", .noKey⟩, ⟨.decrBy, "DECRBY", .keyAndOne⟩,
    ⟨.exist, "EXISTS", .keyOnly⟩, ⟨.expire, "EXPIRE", .keyAndOne⟩, ⟨.geoAdd, "GEOADD", .keyAndAny⟩,
    ⟨.geoPos, "GEOPOS", .keyAndAny⟩, ⟨.getBit, "GETBIT", .keyAndOne⟩, ⟨.getDel, "GETDEL", .keyOnly⟩,
    ⟨.getSet, "GETSET", .keyAndOne⟩, ⟨.hsetNx, "HSETNX", .keyAndTwo⟩,
    ⟨.incrBy, "INCRBY", .keyAndOne⟩, ⟨.lindex, "LINDEX", .keyAndOne⟩,
    ⟨.lpushX, "LPUSHX", .keyAndOne⟩, ⟨.lrange, "LRANGE", .keyAndTwo⟩, ⟨.msetNx, "MSETNX", .pairs⟩,
    ⟨.psetEx, "PSETEX", .keyAndTwo⟩, ⟨.rename, "RENAME", .keyAndOne⟩,
    ⟨.rpushX, "RPUSHX", .keyAndOne⟩, ⟨.setBit, "SETBIT", .keyAndTwo⟩,
    ⟨.sinter, "SINTER", .keyAndAny⟩, ⟨.strlen, "STRLEN", .keyOnly⟩, ⟨.substr, "SUBSTR", .keyAndTwo⟩,
    ⟨.sunion, "SUNION", .keyAndAny⟩, ⟨.unlink, "UNLINK", .keys⟩, ⟨.xclaim, "XCLAIM", .keyAndAny⟩,
    ⟨.xrange, "XRANGE", .keyAndAny⟩, ⟨.zcount, "ZCOUNT", .keyAndTwo⟩,
    ⟨.zrange, "ZRANGE", .keyAndAny⟩, ⟨.zscore, "ZSCORE", .keyAndOne⟩,
    ⟨.evalRo, "EVAL_RO", .script⟩, ⟨.evalSha, "EVALSHA", .script⟩,
    ⟨.geoDist, "GEODIST", .keyAndAny⟩, ⟨.geoHash, "GEOHASH", .keyAndAny⟩,
    ⟨.hexists, "HEXISTS", .keyAndOne⟩, ⟨.hgetAll, "HGETALL", .keyOnly⟩,
    ⟨.hincrBy, "HINCRBY", .keyAndTwo⟩, ⟨.hstrlen, "HSTRLEN", .keyAndOne⟩,
    ⟨.linsert, "LINSERT", .keyAndThree⟩, ⟨.persist, "PERSIST", .keyOnly⟩,
    ⟨.pexpire, "PEXPIRE", .keyAndOne⟩, ⟨.pfCount, "PFCOUNT", .keyOnly⟩,
    ⟨.pfMerge, "PFMERGE", .keyAndAny⟩, ⟨.restore, "RESTORE", .keyAndTwo⟩,
    ⟨.sortRo, "SORT_RO", .keyAndAny⟩, ⟨.zincrBy, "ZINCRBY", .keyAndTwo⟩,
    ⟨.zmScore, "ZMSCORE", .keyAndAny⟩, ⟨.zpopMax, "ZPOPMAX", .keyAndAny⟩,
    ⟨.zpopMin, "ZPOPMIN", .keyAndAny⟩,
    ⟨.bitCount, "BITCOUNT", .keyAndAny⟩, ⟨.bitField, "BITFIELD", .keyAndAny⟩,
    ⟨.expireAt, "EXPIREAT", .keyAndOne⟩, ⟨.fcallRo, "FCALL_RO", .script⟩,
    ⟨.getRange, "GETRANGE", .keyAndTwo⟩, ⟨.lastSave, "LASTSAVE", .noKey⟩,
    ⟨.readOnly, "READONLY", .noKey⟩, ⟨.renameNx, "RENAMENX", .keyAndOne⟩,
    ⟨.setRange, "SETRANGE", .keyAndTwo⟩, ⟨.smembers, "SMEMBERS", .keyOnly⟩,
    ⟨.xpending, "XPENDING", .keyAndAny⟩, ⟨.zrevRank, "ZREVRANK", .keyAndOne⟩,
    ⟨.geoRadius, "GEORADIUS", .keyAndAny⟩, ⟨.geoSearch, "GEOSEARCH", .keyAndAny⟩,
    ⟨.pexpireAt, "PEXPIREAT", .keyAndOne⟩, ⟨.randomKey, "RANDOMKEY", .noKey⟩,
    ⟨.readWrite, "READWRITE", .noKey⟩, ⟨.rpopLpush, "RPOPLPUSH", .keyAndOne⟩,
    ⟨.sisMember, "SISMEMBER", .keyAndOne⟩, ⟨.xrevRange, "XREVRANGE", .keyAndAny⟩,
    ⟨.zlexCount, "ZLEXCOUNT", .keyAndTwo⟩, ⟨.zrevRange, "ZREVRANGE", .keyAndAny⟩,
    ⟨.brpopLpush, "BRPOPLPUSH", .keyAndTwo⟩, ⟨.evalShaRo, "EVALSHA_RO", .script⟩,
    ⟨.expireTime, "EXPIRETIME", .keyOnly⟩, ⟨.hrandField, "HRANDFIELD", .keyAndAny⟩,
    ⟨.sdiffStore, "SDIFFSTORE", .keyAndAny⟩, ⟨.smisMember, "SMISMEMBER", .keyAndAny⟩,
    ⟨.xautoClaim, "XAUTOCLAIM", .keyAndAny⟩, ⟨.zdiffStore, "ZDIFFSTORE", .keyAndAny⟩,
    ⟨.bitFieldRo, "BITFIELD_RO", .keyAndAny⟩, ⟨.incrByFloat, "INCRBYFLOAT", .keyAndOne⟩,
    ⟨.pexpireTime, "PEXPIRETIME", .keyOnly⟩, ⟨.sinterStore, "SINTERSTORE", .keyAndAny⟩,
    ⟨.srandMember, "SRANDMEMBER", .keyAndAny⟩, ⟨.sunionStore, "SUNIONSTORE", .keyAndAny⟩,
    ⟨.zinterStore, "ZINTERSTORE", .keyAndAny⟩, ⟨.zrandMember, "ZRANDMEMBER", .keyAndAny⟩,
    ⟨.zrangeByLex, "ZRANGEBYLEX", .keyAndAny⟩, ⟨.zrangeStore, "ZRANGESTORE", .keyAndAny⟩,
    ⟨.zunionStore, "ZUNIONSTORE", .keyAndAny⟩,
    ⟨.hincrByFloat, "HINCRBYFLOAT", .keyAndTwo⟩,
    ⟨.zrangeByScore, "ZRANGEBYSCORE", .keyAndAny⟩,
    ⟨.geoSearchStore, "GEOSEARCHSTORE", .keyAndAny⟩,
    ⟨.zremRangeByLex, "ZREMRANGEBYLEX", .keyAndTwo⟩,
    ⟨.zrevRangeByLex, "ZREVRANGEBYLEX", .keyAndAny⟩,
    ⟨.zremRangeByRank, "ZREMRANGEBYRANK", .keyAndTwo⟩,
    ⟨.zremRangeByScore, "ZREMRANGEBYSCORE", .keyAndTwo⟩,
    ⟨.zrevRangeByScore, "ZREVRANGEBYSCORE", .keyAndAny⟩,
    ⟨.geoRadiusByMember, "GEORADIUSBYMEMBER", .keyAndAny⟩ ]

namespace Id

/-- The number of an identifier: those above are numbered in order. -/
def number (id : Id) : Nat := id.ctorIdx

/-- The name of the command with this identifier. -/
def name? (id : Id) : Option String := all[id.number]?.map Command.name

/-- The shape of the command with this identifier. -/
def shape? (id : Id) : Option Shape := all[id.number]?.map Command.shape

end Id

/-- The length of the name. -/
def width (command : Command) : Nat := (Text.utf8 command.name).length

/-- The identifier of a name, in any letter case. The search starts behind the shorter names and
ends at the first longer one. -/
def classify (name : Bytes) : Id :=
  let start := partitionPoint (fun command => decide (command.width < name.length)) all
  let ofLength := (all.drop start).takeWhile fun command => decide (command.width = name.length)
  match ofLength.find? fun command => Bytes.sameLetters (Text.utf8 command.name) name with
  | some command => command.id
  | none => .unknown

/-- Whether a command is called by this name, in any letter case. -/
def answersTo (command : Command) (name : Bytes) : Bool :=
  Text.utf8 command.name == name.map Bytes.upper

/-- The command of this name, in any letter case. -/
def find? (name : Bytes) : Option Command :=
  let id := classify name
  id.shape?.map fun shape => ⟨id, id.name?.getD "", shape⟩

end Command

end ClusterProxy
