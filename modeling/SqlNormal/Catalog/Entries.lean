import SqlNormal.Catalog.Function

/-!
# The entries of the catalog

Every function has a number of its own. The numbers are published: they are given by hand, once, and
never change their meaning within a version of the catalog.

* `catalogVersion`;
* `FunctionId.count` and its kin: the numbers that are referred to elsewhere;
* one table for each field, and `catalogEntries`, all of them in the order of their numbers.
-/

namespace SqlNormal

/-- The version of the assignment of numbers. -/
def catalogVersion : Nat := 2

namespace FunctionId

/-- `COUNT` of an expression. -/
def count : FunctionId := ⟨2⟩

/-- `COUNT(*)`. -/
def countStar : FunctionId := ⟨3⟩

/-- A sum. -/
def sum : FunctionId := ⟨6⟩

/-- The coefficient of correlation. -/
def corr : FunctionId := ⟨18⟩

/-- The covariance of a population. -/
def covarPop : FunctionId := ⟨19⟩

/-- The covariance of a sample. -/
def covarSamp : FunctionId := ⟨20⟩

/-- The number of pairs of a regression. -/
def regrCount : FunctionId := ⟨23⟩

/-- The slope of a regression. -/
def regrSlope : FunctionId := ⟨26⟩

/-- The absolute value. -/
def abs : FunctionId := ⟨50⟩

/-- A text without the characters at its ends. -/
def trim : FunctionId := ⟨138⟩

/-- A field of a date or a time. -/
def extract : FunctionId := ⟨195⟩

/-- The name of the current user. -/
def currentUser : FunctionId := ⟨264⟩

/-- The name of the session's user. -/
def sessionUser : FunctionId := ⟨265⟩

/-- The name of the user. -/
def user : FunctionId := ⟨266⟩

/-- The name of the current database. -/
def currentDatabase : FunctionId := ⟨267⟩

/-- The name of the database. -/
def database : FunctionId := ⟨268⟩

/-- The name of the current schema. -/
def currentSchema : FunctionId := ⟨269⟩

end FunctionId

/-- Aggregate functions. -/
def aggregateFunctions : List CatalogEntry :=
  [⟨⟨1⟩, "AVG", .aggregate, .exact 1⟩,
   ⟨.count, "COUNT", .aggregate, .exact 1⟩,
   ⟨.countStar, "COUNT", .aggregate, .exact 0⟩,
   ⟨⟨4⟩, "MAX", .aggregate, .exact 1⟩,
   ⟨⟨5⟩, "MIN", .aggregate, .exact 1⟩,
   ⟨.sum, "SUM", .aggregate, .exact 1⟩,
   ⟨⟨7⟩, "BIT_AND", .aggregate, .exact 1⟩,
   ⟨⟨8⟩, "BIT_OR", .aggregate, .exact 1⟩,
   ⟨⟨9⟩, "BOOL_AND", .aggregate, .exact 1⟩,
   ⟨⟨10⟩, "BOOL_OR", .aggregate, .exact 1⟩,
   ⟨⟨11⟩, "EVERY", .aggregate, .exact 1⟩,
   ⟨⟨12⟩, "STDDEV", .aggregate, .exact 1⟩,
   ⟨⟨13⟩, "STDDEV_POP", .aggregate, .exact 1⟩,
   ⟨⟨14⟩, "STDDEV_SAMP", .aggregate, .exact 1⟩,
   ⟨⟨15⟩, "VARIANCE", .aggregate, .exact 1⟩,
   ⟨⟨16⟩, "VAR_POP", .aggregate, .exact 1⟩,
   ⟨⟨17⟩, "VAR_SAMP", .aggregate, .exact 1⟩,
   ⟨.corr, "CORR", .aggregate, .exact 2⟩,
   ⟨.covarPop, "COVAR_POP", .aggregate, .exact 2⟩,
   ⟨.covarSamp, "COVAR_SAMP", .aggregate, .exact 2⟩,
   ⟨⟨21⟩, "REGR_AVGX", .aggregate, .exact 2⟩,
   ⟨⟨22⟩, "REGR_AVGY", .aggregate, .exact 2⟩,
   ⟨.regrCount, "REGR_COUNT", .aggregate, .exact 2⟩,
   ⟨⟨24⟩, "REGR_INTERCEPT", .aggregate, .exact 2⟩,
   ⟨⟨25⟩, "REGR_R2", .aggregate, .exact 2⟩,
   ⟨.regrSlope, "REGR_SLOPE", .aggregate, .exact 2⟩,
   ⟨⟨27⟩, "REGR_SXX", .aggregate, .exact 2⟩,
   ⟨⟨28⟩, "REGR_SXY", .aggregate, .exact 2⟩,
   ⟨⟨29⟩, "REGR_SYY", .aggregate, .exact 2⟩,
   ⟨⟨30⟩, "ARRAY_AGG", .aggregate, .exact 1⟩,
   ⟨⟨31⟩, "STRING_AGG", .aggregate, .exact 2⟩]

/-- Mathematical functions. -/
def mathematicalFunctions : List CatalogEntry :=
  [⟨.abs, "ABS", .scalar, .exact 1⟩,
   ⟨⟨51⟩, "ACOS", .scalar, .exact 1⟩,
   ⟨⟨52⟩, "ASIN", .scalar, .exact 1⟩,
   ⟨⟨53⟩, "ATAN", .scalar, .exact 1⟩,
   ⟨⟨54⟩, "ATAN2", .scalar, .exact 2⟩,
   ⟨⟨55⟩, "CBRT", .scalar, .exact 1⟩,
   ⟨⟨56⟩, "CEIL", .scalar, .range 1 2⟩,
   ⟨⟨57⟩, "COS", .scalar, .exact 1⟩,
   ⟨⟨58⟩, "COT", .scalar, .exact 1⟩,
   ⟨⟨59⟩, "DEGREES", .scalar, .exact 1⟩,
   ⟨⟨60⟩, "EXP", .scalar, .exact 1⟩,
   ⟨⟨61⟩, "FLOOR", .scalar, .range 1 2⟩,
   ⟨⟨62⟩, "LN", .scalar, .exact 1⟩,
   ⟨⟨63⟩, "LOG", .scalar, .range 1 2⟩,
   ⟨⟨64⟩, "MOD", .scalar, .exact 2⟩,
   ⟨⟨65⟩, "PI", .scalar, .exact 0⟩,
   ⟨⟨66⟩, "POWER", .scalar, .exact 2⟩,
   ⟨⟨67⟩, "RADIANS", .scalar, .exact 1⟩,
   ⟨⟨68⟩, "RANDOM", .scalar, .exact 0⟩,
   ⟨⟨69⟩, "ROUND", .scalar, .range 1 2⟩,
   ⟨⟨70⟩, "SIGN", .scalar, .exact 1⟩,
   ⟨⟨71⟩, "SIN", .scalar, .exact 1⟩,
   ⟨⟨72⟩, "SQRT", .scalar, .exact 1⟩,
   ⟨⟨73⟩, "TAN", .scalar, .exact 1⟩,
   ⟨⟨74⟩, "TRUNC", .scalar, .range 1 2⟩,
   ⟨⟨75⟩, "WIDTH_BUCKET", .scalar, .exact 4⟩,
   ⟨⟨76⟩, "SETSEED", .scalar, .exact 1⟩,
   ⟨⟨77⟩, "FACTORIAL", .scalar, .exact 1⟩,
   ⟨⟨78⟩, "GREATEST", .scalar, .atLeast 1⟩,
   ⟨⟨79⟩, "LEAST", .scalar, .atLeast 1⟩,
   ⟨⟨80⟩, "LOG10", .scalar, .exact 1⟩,
   ⟨⟨81⟩, "DIV", .scalar, .exact 2⟩,
   ⟨⟨82⟩, "GCD", .scalar, .exact 2⟩,
   ⟨⟨83⟩, "LCM", .scalar, .exact 2⟩]

/-- Functions of character strings. -/
def stringFunctions : List CatalogEntry :=
  [⟨⟨100⟩, "ASCII", .scalar, .exact 1⟩,
   ⟨⟨101⟩, "BIT_LENGTH", .scalar, .exact 1⟩,
   ⟨⟨102⟩, "BTRIM", .scalar, .range 1 2⟩,
   ⟨⟨103⟩, "CHAR_LENGTH", .scalar, .exact 1⟩,
   ⟨⟨104⟩, "CHR", .scalar, .exact 1⟩,
   ⟨⟨105⟩, "CONCAT", .scalar, .atLeast 1⟩,
   ⟨⟨106⟩, "CONVERT", .scalar, .range 2 3⟩,
   ⟨⟨107⟩, "CONVERT_FROM", .scalar, .exact 2⟩,
   ⟨⟨108⟩, "CONVERT_TO", .scalar, .exact 2⟩,
   ⟨⟨109⟩, "DECODE", .scalar, .exact 2⟩,
   ⟨⟨110⟩, "ENCODE", .scalar, .exact 2⟩,
   ⟨⟨111⟩, "INITCAP", .scalar, .exact 1⟩,
   ⟨⟨112⟩, "INDEX", .scalar, .exact 2⟩,
   ⟨⟨113⟩, "INSTR", .scalar, .exact 2⟩,
   ⟨⟨114⟩, "LEFT", .scalar, .exact 2⟩,
   ⟨⟨115⟩, "LENGTH", .scalar, .range 1 2⟩,
   ⟨⟨116⟩, "LOWER", .scalar, .exact 1⟩,
   ⟨⟨117⟩, "LPAD", .scalar, .range 2 3⟩,
   ⟨⟨118⟩, "LTRIM", .scalar, .range 1 2⟩,
   ⟨⟨119⟩, "MD5", .scalar, .exact 1⟩,
   ⟨⟨120⟩, "OCTET_LENGTH", .scalar, .exact 1⟩,
   ⟨⟨121⟩, "OVERLAY", .scalar, .range 3 4⟩,
   ⟨⟨122⟩, "POSITION", .scalar, .exact 2⟩,
   ⟨⟨123⟩, "QUOTE_IDENT", .scalar, .exact 1⟩,
   ⟨⟨124⟩, "QUOTE_LITERAL", .scalar, .exact 1⟩,
   ⟨⟨125⟩, "REPEAT", .scalar, .exact 2⟩,
   ⟨⟨126⟩, "REPLACE", .scalar, .exact 3⟩,
   ⟨⟨127⟩, "REVERSE", .scalar, .exact 1⟩,
   ⟨⟨128⟩, "RIGHT", .scalar, .exact 2⟩,
   ⟨⟨129⟩, "RPAD", .scalar, .range 2 3⟩,
   ⟨⟨130⟩, "RTRIM", .scalar, .range 1 2⟩,
   ⟨⟨131⟩, "SPLIT_PART", .scalar, .exact 3⟩,
   ⟨⟨132⟩, "STRPOS", .scalar, .exact 2⟩,
   ⟨⟨133⟩, "SUBSTR", .scalar, .range 2 3⟩,
   ⟨⟨134⟩, "SUBSTRING", .scalar, .range 1 3⟩,
   ⟨⟨135⟩, "TO_ASCII", .scalar, .range 1 2⟩,
   ⟨⟨136⟩, "TO_HEX", .scalar, .exact 1⟩,
   ⟨⟨137⟩, "TRANSLATE", .scalar, .exact 3⟩,
   ⟨.trim, "TRIM", .scalar, .range 1 2⟩,
   ⟨⟨139⟩, "UPPER", .scalar, .exact 1⟩,
   ⟨⟨140⟩, "LFILL", .scalar, .range 2 3⟩,
   ⟨⟨141⟩, "RFILL", .scalar, .range 2 3⟩,
   ⟨⟨142⟩, "SOUNDEX", .scalar, .exact 1⟩,
   ⟨⟨143⟩, "SPACE", .scalar, .exact 1⟩,
   ⟨⟨144⟩, "REGEXP_REPLACE", .scalar, .range 3 4⟩,
   ⟨⟨145⟩, "REGEXP_MATCHES", .scalar, .range 2 3⟩,
   ⟨⟨146⟩, "CONCAT_WS", .scalar, .atLeast 2⟩,
   ⟨⟨147⟩, "TO_CHAR", .scalar, .exact 2⟩,
   ⟨⟨148⟩, "TO_NUMBER", .scalar, .exact 2⟩]

/-- Functions of dates and times. -/
def temporalFunctions : List CatalogEntry :=
  [⟨⟨180⟩, "ADD_MONTHS", .scalar, .exact 2⟩,
   ⟨⟨181⟩, "AGE", .scalar, .range 1 2⟩,
   ⟨⟨182⟩, "CLOCK_TIMESTAMP", .scalar, .exact 0⟩,
   ⟨⟨183⟩, "CURRENT_DATE", .niladic, .exact 0⟩,
   ⟨⟨184⟩, "CURRENT_TIME", .niladic, .range 0 1⟩,
   ⟨⟨185⟩, "CURRENT_TIMESTAMP", .niladic, .range 0 1⟩,
   ⟨⟨186⟩, "DATE", .scalar, .exact 1⟩,
   ⟨⟨187⟩, "DATE_PART", .scalar, .exact 2⟩,
   ⟨⟨188⟩, "DATE_TRUNC", .scalar, .exact 2⟩,
   ⟨⟨189⟩, "DAY", .scalar, .exact 1⟩,
   ⟨⟨190⟩, "DAYNAME", .scalar, .exact 1⟩,
   ⟨⟨191⟩, "DAYOFMONTH", .scalar, .exact 1⟩,
   ⟨⟨192⟩, "DAYOFWEEK", .scalar, .exact 1⟩,
   ⟨⟨193⟩, "DAYOFYEAR", .scalar, .exact 1⟩,
   ⟨⟨194⟩, "DAYS", .scalar, .exact 1⟩,
   ⟨.extract, "EXTRACT", .scalar, .exact 2⟩,
   ⟨⟨196⟩, "HOUR", .scalar, .exact 1⟩,
   ⟨⟨197⟩, "ISFINITE", .scalar, .exact 1⟩,
   ⟨⟨198⟩, "JUSTIFY_DAYS", .scalar, .exact 1⟩,
   ⟨⟨199⟩, "JUSTIFY_HOURS", .scalar, .exact 1⟩,
   ⟨⟨200⟩, "LAST_DAY", .scalar, .exact 1⟩,
   ⟨⟨201⟩, "LOCALTIME", .niladic, .range 0 1⟩,
   ⟨⟨202⟩, "LOCALTIMESTAMP", .niladic, .range 0 1⟩,
   ⟨⟨203⟩, "MINUTE", .scalar, .exact 1⟩,
   ⟨⟨204⟩, "MONTH", .scalar, .exact 1⟩,
   ⟨⟨205⟩, "MONTHNAME", .scalar, .exact 1⟩,
   ⟨⟨206⟩, "MONTHS_BETWEEN", .scalar, .exact 2⟩,
   ⟨⟨207⟩, "NEXT_DAY", .scalar, .exact 2⟩,
   ⟨⟨208⟩, "NOW", .scalar, .exact 0⟩,
   ⟨⟨209⟩, "SECOND", .scalar, .exact 1⟩,
   ⟨⟨210⟩, "TIME", .scalar, .exact 1⟩,
   ⟨⟨211⟩, "TIMEOFDAY", .scalar, .exact 0⟩,
   ⟨⟨212⟩, "TIMESTAMP", .scalar, .range 1 2⟩,
   ⟨⟨213⟩, "TO_DATE", .scalar, .exact 2⟩,
   ⟨⟨214⟩, "TO_TIMESTAMP", .scalar, .range 1 2⟩,
   ⟨⟨215⟩, "WEEK", .scalar, .exact 1⟩,
   ⟨⟨216⟩, "WEEKOFYEAR", .scalar, .exact 1⟩,
   ⟨⟨217⟩, "YEAR", .scalar, .exact 1⟩,
   ⟨⟨218⟩, "ADDDATE", .scalar, .exact 2⟩,
   ⟨⟨219⟩, "ADDTIME", .scalar, .exact 2⟩,
   ⟨⟨220⟩, "DATEDIFF", .scalar, .exact 2⟩,
   ⟨⟨221⟩, "SUBDATE", .scalar, .exact 2⟩,
   ⟨⟨222⟩, "SUBTIME", .scalar, .exact 2⟩,
   ⟨⟨223⟩, "MAKEDATE", .scalar, .exact 2⟩,
   ⟨⟨224⟩, "MAKETIME", .scalar, .exact 3⟩,
   ⟨⟨225⟩, "FROM_DAYS", .scalar, .exact 1⟩,
   ⟨⟨226⟩, "STATEMENT_TIMESTAMP", .scalar, .exact 0⟩,
   ⟨⟨227⟩, "TRANSACTION_TIMESTAMP", .scalar, .exact 0⟩,
   ⟨⟨228⟩, "QUARTER", .scalar, .exact 1⟩,
   ⟨⟨229⟩, "MICROSECOND", .scalar, .exact 1⟩]

/-- Conditional functions and those that the session answers. -/
def conditionalFunctions : List CatalogEntry :=
  [⟨⟨260⟩, "COALESCE", .scalar, .atLeast 1⟩,
   ⟨⟨261⟩, "NULLIF", .scalar, .exact 2⟩,
   ⟨⟨262⟩, "NVL", .scalar, .exact 2⟩,
   ⟨⟨263⟩, "NVL2", .scalar, .exact 3⟩,
   ⟨.currentUser, "CURRENT_USER", .session, .exact 0⟩,
   ⟨.sessionUser, "SESSION_USER", .session, .exact 0⟩,
   ⟨.user, "USER", .session, .exact 0⟩,
   ⟨.currentDatabase, "CURRENT_DATABASE", .session, .exact 0⟩,
   ⟨.database, "DATABASE", .session, .exact 0⟩,
   ⟨.currentSchema, "CURRENT_SCHEMA", .session, .exact 0⟩,
   ⟨⟨270⟩, "VERSION", .scalar, .exact 0⟩]

/-- Functions of network addresses. -/
def networkFunctions : List CatalogEntry :=
  [⟨⟨290⟩, "ABBREV", .scalar, .exact 1⟩,
   ⟨⟨291⟩, "BROADCAST", .scalar, .exact 1⟩,
   ⟨⟨292⟩, "FAMILY", .scalar, .exact 1⟩,
   ⟨⟨293⟩, "HOST", .scalar, .exact 1⟩,
   ⟨⟨294⟩, "HOSTMASK", .scalar, .exact 1⟩,
   ⟨⟨295⟩, "MASKLEN", .scalar, .exact 1⟩,
   ⟨⟨296⟩, "NETMASK", .scalar, .exact 1⟩,
   ⟨⟨297⟩, "NETWORK", .scalar, .exact 1⟩,
   ⟨⟨298⟩, "SET_MASKLEN", .scalar, .exact 2⟩,
   ⟨⟨299⟩, "TEXT", .scalar, .exact 1⟩]

/-- Functions of plane figures. -/
def geometricFunctions : List CatalogEntry :=
  [⟨⟨310⟩, "AREA", .scalar, .exact 1⟩,
   ⟨⟨311⟩, "BOX", .scalar, .range 1 2⟩,
   ⟨⟨312⟩, "CENTER", .scalar, .exact 1⟩,
   ⟨⟨313⟩, "CIRCLE", .scalar, .range 1 2⟩,
   ⟨⟨314⟩, "DIAMETER", .scalar, .exact 1⟩,
   ⟨⟨315⟩, "HEIGHT", .scalar, .exact 1⟩,
   ⟨⟨316⟩, "ISCLOSED", .scalar, .exact 1⟩,
   ⟨⟨317⟩, "ISOPEN", .scalar, .exact 1⟩,
   ⟨⟨318⟩, "LSEG", .scalar, .range 1 2⟩,
   ⟨⟨319⟩, "NPOINTS", .scalar, .exact 1⟩,
   ⟨⟨320⟩, "PATH", .scalar, .exact 1⟩,
   ⟨⟨321⟩, "PCLOSE", .scalar, .exact 1⟩,
   ⟨⟨322⟩, "POINT", .scalar, .range 1 2⟩,
   ⟨⟨323⟩, "POLYGON", .scalar, .range 1 2⟩,
   ⟨⟨324⟩, "POPEN", .scalar, .exact 1⟩,
   ⟨⟨325⟩, "RADIUS", .scalar, .exact 1⟩,
   ⟨⟨326⟩, "WIDTH", .scalar, .exact 1⟩]

/-- Functions of binary strings. -/
def binaryFunctions : List CatalogEntry :=
  [⟨⟨340⟩, "GET_BIT", .scalar, .exact 2⟩,
   ⟨⟨341⟩, "GET_BYTE", .scalar, .exact 2⟩,
   ⟨⟨342⟩, "SET_BIT", .scalar, .exact 3⟩,
   ⟨⟨343⟩, "SET_BYTE", .scalar, .exact 3⟩]

/-- Functions of spatial objects. -/
def spatialFunctions : List CatalogEntry :=
  [⟨⟨400⟩, "ST_AREA", .spatial, .exact 1⟩,
   ⟨⟨401⟩, "ST_ASBINARY", .spatial, .range 1 2⟩,
   ⟨⟨402⟩, "ST_ASEWKB", .spatial, .exact 1⟩,
   ⟨⟨403⟩, "ST_ASEWKT", .spatial, .exact 1⟩,
   ⟨⟨404⟩, "ST_ASGEOJSON", .spatial, .range 1 3⟩,
   ⟨⟨405⟩, "ST_ASKML", .spatial, .range 1 2⟩,
   ⟨⟨406⟩, "ST_ASSVG", .spatial, .range 1 3⟩,
   ⟨⟨407⟩, "ST_ASTEXT", .spatial, .exact 1⟩,
   ⟨⟨408⟩, "ST_AZIMUTH", .spatial, .exact 2⟩,
   ⟨⟨409⟩, "ST_BOUNDARY", .spatial, .exact 1⟩,
   ⟨⟨410⟩, "ST_BUFFER", .spatial, .range 2 3⟩,
   ⟨⟨411⟩, "ST_CENTROID", .spatial, .exact 1⟩,
   ⟨⟨412⟩, "ST_CLOSESTPOINT", .spatial, .exact 2⟩,
   ⟨⟨413⟩, "ST_COLLECT", .spatial, .exact 2⟩,
   ⟨⟨414⟩, "ST_CONTAINS", .spatial, .exact 2⟩,
   ⟨⟨415⟩, "ST_CONVEXHULL", .spatial, .exact 1⟩,
   ⟨⟨416⟩, "ST_COVEREDBY", .spatial, .exact 2⟩,
   ⟨⟨417⟩, "ST_COVERS", .spatial, .exact 2⟩,
   ⟨⟨418⟩, "ST_CROSSES", .spatial, .exact 2⟩,
   ⟨⟨419⟩, "ST_DIFFERENCE", .spatial, .exact 2⟩,
   ⟨⟨420⟩, "ST_DIMENSION", .spatial, .exact 1⟩,
   ⟨⟨421⟩, "ST_DISJOINT", .spatial, .exact 2⟩,
   ⟨⟨422⟩, "ST_DISTANCE", .spatial, .exact 2⟩,
   ⟨⟨423⟩, "ST_DISTANCE_SPHERE", .spatial, .exact 2⟩,
   ⟨⟨424⟩, "ST_DWITHIN", .spatial, .exact 3⟩,
   ⟨⟨425⟩, "ST_ENDPOINT", .spatial, .exact 1⟩,
   ⟨⟨426⟩, "ST_ENVELOPE", .spatial, .exact 1⟩,
   ⟨⟨427⟩, "ST_EQUALS", .spatial, .exact 2⟩,
   ⟨⟨428⟩, "ST_EXTERIORRING", .spatial, .exact 1⟩,
   ⟨⟨429⟩, "ST_FORCE_2D", .spatial, .exact 1⟩,
   ⟨⟨430⟩, "ST_FORCE_3D", .spatial, .exact 1⟩,
   ⟨⟨431⟩, "ST_GEOMETRYN", .spatial, .exact 2⟩,
   ⟨⟨432⟩, "ST_GEOMETRYTYPE", .spatial, .exact 1⟩,
   ⟨⟨433⟩, "ST_GEOMFROMTEXT", .spatial, .range 1 2⟩,
   ⟨⟨434⟩, "ST_GEOMFROMWKB", .spatial, .range 1 2⟩,
   ⟨⟨435⟩, "ST_HAUSDORFFDISTANCE", .spatial, .exact 2⟩,
   ⟨⟨436⟩, "ST_INTERIORRINGN", .spatial, .exact 2⟩,
   ⟨⟨437⟩, "ST_INTERSECTION", .spatial, .exact 2⟩,
   ⟨⟨438⟩, "ST_INTERSECTS", .spatial, .exact 2⟩,
   ⟨⟨439⟩, "ST_ISCLOSED", .spatial, .exact 1⟩,
   ⟨⟨440⟩, "ST_ISEMPTY", .spatial, .exact 1⟩,
   ⟨⟨441⟩, "ST_ISRING", .spatial, .exact 1⟩,
   ⟨⟨442⟩, "ST_ISSIMPLE", .spatial, .exact 1⟩,
   ⟨⟨443⟩, "ST_ISVALID", .spatial, .exact 1⟩,
   ⟨⟨444⟩, "ST_LENGTH", .spatial, .exact 1⟩,
   ⟨⟨445⟩, "ST_LENGTH2D", .spatial, .exact 1⟩,
   ⟨⟨446⟩, "ST_LENGTH3D", .spatial, .exact 1⟩,
   ⟨⟨447⟩, "ST_LINEFROMTEXT", .spatial, .range 1 2⟩,
   ⟨⟨448⟩, "ST_LINEMERGE", .spatial, .exact 1⟩,
   ⟨⟨449⟩, "ST_LINE_INTERPOLATE_POINT", .spatial, .exact 2⟩,
   ⟨⟨450⟩, "ST_LINE_LOCATE_POINT", .spatial, .exact 2⟩,
   ⟨⟨451⟩, "ST_LINE_SUBSTRING", .spatial, .exact 3⟩,
   ⟨⟨452⟩, "ST_LONGESTLINE", .spatial, .exact 2⟩,
   ⟨⟨453⟩, "ST_MAKELINE", .spatial, .exact 2⟩,
   ⟨⟨454⟩, "ST_MAKEPOINT", .spatial, .range 2 4⟩,
   ⟨⟨455⟩, "ST_MAKEPOLYGON", .spatial, .range 1 2⟩,
   ⟨⟨456⟩, "ST_MAXDISTANCE", .spatial, .exact 2⟩,
   ⟨⟨457⟩, "ST_MULTI", .spatial, .exact 1⟩,
   ⟨⟨458⟩, "ST_NPOINTS", .spatial, .exact 1⟩,
   ⟨⟨459⟩, "ST_NUMGEOMETRIES", .spatial, .exact 1⟩,
   ⟨⟨460⟩, "ST_NUMINTERIORRINGS", .spatial, .exact 1⟩,
   ⟨⟨461⟩, "ST_NUMPOINTS", .spatial, .exact 1⟩,
   ⟨⟨462⟩, "ST_OVERLAPS", .spatial, .exact 2⟩,
   ⟨⟨463⟩, "ST_PERIMETER", .spatial, .exact 1⟩,
   ⟨⟨464⟩, "ST_POINTN", .spatial, .exact 2⟩,
   ⟨⟨465⟩, "ST_POINTONSURFACE", .spatial, .exact 1⟩,
   ⟨⟨466⟩, "ST_POLYGONFROMTEXT", .spatial, .range 1 2⟩,
   ⟨⟨467⟩, "ST_RELATE", .spatial, .range 2 3⟩,
   ⟨⟨468⟩, "ST_REVERSE", .spatial, .exact 1⟩,
   ⟨⟨469⟩, "ST_ROTATE", .spatial, .exact 2⟩,
   ⟨⟨470⟩, "ST_SCALE", .spatial, .range 3 4⟩,
   ⟨⟨471⟩, "ST_SEGMENTIZE", .spatial, .exact 2⟩,
   ⟨⟨472⟩, "ST_SETSRID", .spatial, .exact 2⟩,
   ⟨⟨473⟩, "ST_SHORTESTLINE", .spatial, .exact 2⟩,
   ⟨⟨474⟩, "ST_SIMPLIFY", .spatial, .exact 2⟩,
   ⟨⟨475⟩, "ST_SNAPTOGRID", .spatial, .range 2 5⟩,
   ⟨⟨476⟩, "ST_SRID", .spatial, .exact 1⟩,
   ⟨⟨477⟩, "ST_STARTPOINT", .spatial, .exact 1⟩,
   ⟨⟨478⟩, "ST_SYMDIFFERENCE", .spatial, .exact 2⟩,
   ⟨⟨479⟩, "ST_TOUCHES", .spatial, .exact 2⟩,
   ⟨⟨480⟩, "ST_TRANSFORM", .spatial, .exact 2⟩,
   ⟨⟨481⟩, "ST_TRANSLATE", .spatial, .range 3 4⟩,
   ⟨⟨482⟩, "ST_UNION", .spatial, .exact 2⟩,
   ⟨⟨483⟩, "ST_WITHIN", .spatial, .exact 2⟩,
   ⟨⟨484⟩, "ST_X", .spatial, .exact 1⟩,
   ⟨⟨485⟩, "ST_Y", .spatial, .exact 1⟩,
   ⟨⟨486⟩, "ST_Z", .spatial, .exact 1⟩,
   ⟨⟨487⟩, "ST_M", .spatial, .exact 1⟩,
   ⟨⟨488⟩, "ST_XMIN", .spatial, .exact 1⟩,
   ⟨⟨489⟩, "ST_XMAX", .spatial, .exact 1⟩,
   ⟨⟨490⟩, "ST_YMIN", .spatial, .exact 1⟩,
   ⟨⟨491⟩, "ST_YMAX", .spatial, .exact 1⟩,
   ⟨⟨492⟩, "ST_ZMIN", .spatial, .exact 1⟩,
   ⟨⟨493⟩, "ST_ZMAX", .spatial, .exact 1⟩,
   ⟨⟨494⟩, "ST_ADDPOINT", .spatial, .range 2 3⟩,
   ⟨⟨495⟩, "ST_REMOVEPOINT", .spatial, .exact 2⟩,
   ⟨⟨496⟩, "ST_SETPOINT", .spatial, .exact 3⟩,
   ⟨⟨497⟩, "ST_AFFINE", .spatial, .range 7 13⟩,
   ⟨⟨498⟩, "ST_BOX2D", .spatial, .exact 1⟩,
   ⟨⟨499⟩, "ST_BOX3D", .spatial, .exact 1⟩,
   ⟨⟨500⟩, "ST_POINT", .spatial, .exact 2⟩,
   ⟨⟨501⟩, "ST_ISVALIDREASON", .spatial, .exact 1⟩]

/-- Aggregates of spatial objects. -/
def spatialAggregates : List CatalogEntry :=
  [⟨⟨520⟩, "ST_COLLECT", .spatialAggregate, .exact 1⟩,
   ⟨⟨521⟩, "ST_EXTENT", .spatialAggregate, .exact 1⟩,
   ⟨⟨522⟩, "ST_EXTENT3D", .spatialAggregate, .exact 1⟩,
   ⟨⟨523⟩, "ST_MAKELINE", .spatialAggregate, .exact 1⟩,
   ⟨⟨524⟩, "ST_UNION", .spatialAggregate, .exact 1⟩,
   ⟨⟨525⟩, "ST_ACCUM", .spatialAggregate, .exact 1⟩,
   ⟨⟨526⟩, "ST_POLYGONIZE", .spatialAggregate, .exact 1⟩]

/-- All entries, in the order of their numbers. -/
def catalogEntries : List CatalogEntry :=
  aggregateFunctions ++
    mathematicalFunctions ++
    stringFunctions ++
    temporalFunctions ++
    conditionalFunctions ++
    networkFunctions ++
    geometricFunctions ++
    binaryFunctions ++
    spatialFunctions ++
    spatialAggregates

end SqlNormal
